import SeedWallet.Proofs.AddressSearch

/-!
# Installing profiles

A wallet keeps its master key when another profile is installed, and with it the network that the key
was made for. Nothing else is left of an earlier profile, and nothing that a wallet answers depends on
the network of its master key: it is handed on to children and never looked at. So after any run of
operations a wallet cannot be told from one that has just been opened under the profile installed last.

- `Wallet.Operation`, `Wallet.Answer`: what can be asked of a wallet, and what it says.
- `Wallet.after`, `Wallet.answers`: the wallet after a run of operations, and the answers along it.
- `Wallet.lastInstalled`: the profile in force after a run.
- `ExtendedKey.onNetwork`, `Wallet.onNetwork`: the same key, or wallet, made for another network.
- `Wallet.answer_onNetwork`: the network of the master key does not show.
- `Wallet.after_eq_install`: what a run changes.
- `Wallet.answer_after`: a run of operations against a wallet just opened.
-/

namespace SeedWallet

/-! ## Runs of operations -/

namespace Wallet

/-- What can be asked of a wallet. Nonces, which are random, are part of what is asked. -/
inductive Operation where
  | install (profile : Profile)
  | profile
  | phrase
  | description
  | receive (index : UInt32)
  | change (index : UInt32)
  | find (target : String) (limit : UInt32)
  | sign (message : Bytes)
  | signHex (message : Bytes)
  | signingSecret
  | signingPublicKey
  | verificationKey
  | encrypt (body : Bytes) (recipient : String) (nonce : FixedBytes Envelope.nonceSize)
  | encryptEphemeral (body entropy : Bytes) (recipient : String)
      (nonce : FixedBytes Envelope.nonceSize)
  | decrypt (payload : Bytes)
  | decryptAt (payload : Bytes) (path : Path)
  | feeEstimator
  | importKey (text : String)
  | importKeyWith (text : String) (profile : Profile)

/-- What a wallet says. -/
inductive Answer where
  | installed
  | profile (p : Profile)
  | text (r : Result String)
  | record (r : Result AddressRecord)
  | bytes (r : Result Bytes)
  | secret (r : Result SecretKey)
  | publicKey (r : Result PublicKey)
  /-- An estimator, which is known by the profile that it is bound to: fees and sizes are functions of
  that profile. -/
  | estimator (p : Profile)
  | imported (r : Result ImportedKey)

/-- The profile that an operation installs, if it is one that does. -/
def Operation.installed? : Operation → Option Profile
  | .install p => some p
  | _ => none

/-- Whether an operation works with the keys of the wallet and with no address. -/
def Operation.worksWithKeys : Operation → Bool
  | .sign _ | .signHex _ | .signingSecret | .signingPublicKey | .verificationKey | .encrypt _ _ _
  | .decrypt _ | .decryptAt _ _ => true
  | _ => false

/-- The record may answer the operation with what stands at that index of the chain: the index is the
one that was asked for, or the address is the one that was searched for below a limit. -/
def Operation.Allows (m : AddressRecord) (chain : Chain) (index : UInt32) : Operation → Prop
  | .receive i => chain = .receive ∧ index = i
  | .change i => chain = .change ∧ index = i
  | .find target limit => m.address = target ∧ index < limit
  | _ => False

/-- The answer to an operation. -/
def answer (w : Wallet) : Operation → Answer
  | .install _ => .installed
  | .profile => .profile w.profile
  | .phrase => .text (.ok w.phrase)
  | .description => .text (.ok w.description)
  | .receive index => .record (w.receive index)
  | .change index => .record (w.change index)
  | .find target limit => .record (w.find target limit)
  | .sign message => .bytes (w.sign message)
  | .signHex message => .text (w.signHex message)
  | .signingSecret => .secret w.signingSecret
  | .signingPublicKey => .publicKey w.signingPublicKey
  | .verificationKey => .text w.verificationKey
  | .encrypt body recipient nonce => .bytes (w.encrypt body recipient nonce)
  | .encryptEphemeral body entropy recipient nonce =>
    .bytes (encryptEphemeral body entropy recipient nonce)
  | .decrypt payload => .bytes (w.decrypt payload)
  | .decryptAt payload path => .bytes (w.decryptAt payload path)
  | .feeEstimator => .estimator w.profile
  | .importKey text => .imported (importKey text)
  | .importKeyWith text profile => .imported (importKeyWith text profile)

/-- The wallet after an operation. -/
def step (w : Wallet) : Operation → Wallet
  | .install p => w.install p
  | _ => w

/-- The wallet after a run of operations. -/
def after (w : Wallet) (ops : List Operation) : Wallet :=
  ops.foldl step w

/-- The answers along a run of operations. -/
def answers (w : Wallet) : List Operation → List Answer
  | [] => []
  | op :: ops => w.answer op :: (w.step op).answers ops

/-- The profile that a run installs last, or the one in force before if it installs none. -/
def lastInstalled (p : Profile) (ops : List Operation) : Profile :=
  (ops.filterMap Operation.installed?).getLast?.getD p

/-! ### What a run changes -/

@[simp] theorem lastInstalled_nil (p : Profile) : lastInstalled p [] = p := rfl

/-- What an operation installs is in force for the rest of a run. -/
theorem lastInstalled_cons (p : Profile) (op : Operation) (ops : List Operation) :
    lastInstalled p (op :: ops) = lastInstalled (op.installed?.getD p) ops := by
  rw [lastInstalled, lastInstalled, List.filterMap_cons]
  cases op.installed? with
  | none => rfl
  | some q => simp [List.getLast?_cons]

/-- An operation changes the profile if it installs one, and nothing else. -/
theorem step_eq_install (w : Wallet) (op : Operation) :
    w.step op = w.install (op.installed?.getD w.profile) := by
  cases op <;> rfl

/-- A run changes the profile to the one installed last, and nothing else. -/
theorem after_eq_install (w : Wallet) (ops : List Operation) :
    w.after ops = w.install (lastInstalled w.profile ops) := by
  induction ops generalizing w with
  | nil => rfl
  | cons op ops ih =>
    have htail : w.after (op :: ops) = (w.step op).after ops := rfl
    rw [htail, ih, step_eq_install, lastInstalled_cons]
    rfl

/-- The answer to an operation is that of the wallet after those before it. -/
theorem getElem?_answers (w : Wallet) (ops : List Operation) (k : Nat) :
    (w.answers ops)[k]? = ops[k]?.map (w.after (ops.take k)).answer := by
  induction ops generalizing w k with
  | nil => rfl
  | cons op ops ih =>
    cases k with
    | zero => rfl
    | succ k => exact ih (w.step op) k

/-- An operation that installs nothing does not show in the rest of a run. -/
theorem after_append_cons {op : Operation} (h : op.installed? = none) (w : Wallet)
    (front back : List Operation) :
    w.after (front ++ op :: back) = w.after (front ++ back) := by
  have hstep : ∀ u : Wallet, u.step op = u := by
    intro u
    rw [step_eq_install, h]
    rfl
  rw [after, after, List.foldl_append, List.foldl_append, List.foldl_cons, hstep]

end Wallet

/-! ## The network of the master key -/

namespace ExtendedKey

/-- The same key of a tree that was made for another network. -/
def onNetwork (n : Network) (key : ExtendedKey) : ExtendedKey :=
  { key with network := n }

@[simp] theorem secret_onNetwork (n : Network) (key : ExtendedKey) :
    (key.onNetwork n).secret = key.secret := rfl

theorem ofHalves_eq_map (mac : Bytes) (m n : Network) :
    ofHalves mac n = (ofHalves mac m).map (onNetwork n) := by
  rw [ofHalves, ofHalves]
  cases SecretKey.ofBytes? (mac.take 32) <;> rfl

/-- The master keys of a seed are the same up to the network. -/
theorem master_eq_map (seed : Bytes) (m n : Network) :
    master seed n = (master seed m).map (onNetwork n) :=
  ofHalves_eq_map _ m n

theorem childOfHalves_onNetwork (n : Network) (key : ExtendedKey) (c : ChildNumber) (mac : Bytes) :
    (key.onNetwork n).childOfHalves c mac = (key.childOfHalves c mac).map (onNetwork n) := by
  rw [childOfHalves, childOfHalves, secret_onNetwork]
  cases (SecretKey.ofBytes? (mac.take 32)).bind fun tweak => key.secret.add? tweak.scalar <;> rfl

/-- Children hand the network on. -/
theorem child_onNetwork (n : Network) (key : ExtendedKey) (c : ChildNumber) :
    (key.onNetwork n).child c = (key.child c).map (onNetwork n) :=
  childOfHalves_onNetwork n key c _

theorem descend_onNetwork (n : Network) (key : ExtendedKey) (cs : List ChildNumber) :
    (key.onNetwork n).descend cs = (key.descend cs).map (onNetwork n) := by
  induction cs generalizing key with
  | nil => rfl
  | cons c cs ih =>
    rw [descend_cons, descend_cons, child_onNetwork]
    cases key.child c with
    | error e => rfl
    | ok next => exact ih next

theorem atPath_onNetwork (n : Network) (key : ExtendedKey) (path : Path) :
    (key.onNetwork n).atPath path = (key.atPath path).map (onNetwork n) := by
  rw [atPath, atPath]
  cases path.children with
  | error e => rfl
  | ok cs => exact descend_onNetwork n key cs

theorem signingKey_onNetwork (n : Network) (key : ExtendedKey) :
    (key.onNetwork n).signingKey = key.signingKey.map (onNetwork n) :=
  descend_onNetwork n key _

section

variable {β : Type} {n : Network} (r : Result ExtendedKey)

/-- What does not look at the network continues alike. -/
theorem bind_map_onNetwork {f : ExtendedKey → Result β} (hf : ∀ key, f (key.onNetwork n) = f key) :
    r.map (onNetwork n) >>= f = r >>= f := by
  cases r with
  | error e => rfl
  | ok key => exact hf key

theorem map_map_onNetwork {f : ExtendedKey → β} (hf : ∀ key, f (key.onNetwork n) = f key) :
    (r.map (onNetwork n)).map f = r.map f := by
  cases r with
  | error e => rfl
  | ok key => exact congrArg Except.ok (hf key)

end

theorem sign_onNetwork (n : Network) (key : ExtendedKey) (message : Bytes) :
    (key.onNetwork n).sign message = key.sign message := by
  rw [sign, sign, signingKey_onNetwork]
  apply bind_map_onNetwork
  intro signer
  rw [secret_onNetwork]

end ExtendedKey

namespace Wallet

/-- The same wallet with a master key that was made for another network. -/
def onNetwork (n : Network) (w : Wallet) : Wallet :=
  { w with master := w.master.onNetwork n }

/-- The wallets of a phrase are the same up to profile and network: a phrase opens a wallet under every
profile or under none. -/
theorem ofPhrase_eq_map (phrase : String) (p q : Profile) :
    ofPhrase phrase q = (ofPhrase phrase p).map fun w => (w.onNetwork q.network).install q := by
  unfold ofPhrase
  cases seedOfPhrase phrase with
  | error e => rfl
  | ok seed =>
    rw [Result.ok_bind, Result.ok_bind, ExtendedKey.master_eq_map seed p.network q.network]
    cases ExtendedKey.master seed p.network <;> rfl

section

variable (n : Network) (w : Wallet)

@[simp] theorem master_onNetwork : (w.onNetwork n).master = w.master.onNetwork n := rfl

theorem addressAt_onNetwork (chain : Chain) (index : UInt32) :
    (w.onNetwork n).addressAt chain index = w.addressAt chain index := by
  rw [addressAt, addressAt, master_onNetwork, ExtendedKey.atPath_onNetwork]
  exact ExtendedKey.bind_map_onNetwork _ fun key => rfl

theorem find_onNetwork (target : String) (limit : UInt32) :
    (w.onNetwork n).find target limit = w.find target limit := by
  have hrecord : (w.onNetwork n).recordAt = w.recordAt := by
    funext p
    rw [recordAt_eq, recordAt_eq, addressAt_onNetwork]
  rw [find_eq_scan, find_eq_scan]
  induction places limit with
  | nil => rfl
  | cons p ps ih => rw [scan, scan, hrecord, ih]

theorem signingSecret_onNetwork : (w.onNetwork n).signingSecret = w.signingSecret := by
  rw [signingSecret, signingSecret, master_onNetwork, ExtendedKey.signingKey_onNetwork]
  exact ExtendedKey.map_map_onNetwork _ fun key => rfl

theorem signingPublicKey_onNetwork : (w.onNetwork n).signingPublicKey = w.signingPublicKey := by
  rw [signingPublicKey, signingPublicKey, master_onNetwork, ExtendedKey.signingKey_onNetwork]
  exact ExtendedKey.map_map_onNetwork _ fun key => rfl

theorem decryptAt_onNetwork (payload : Bytes) (path : Path) :
    (w.onNetwork n).decryptAt payload path = w.decryptAt payload path := by
  rw [decryptAt, decryptAt, master_onNetwork, ExtendedKey.atPath_onNetwork]
  exact ExtendedKey.bind_map_onNetwork _ fun key => rfl

/-- The network of the master key does not show in any answer. -/
theorem answer_onNetwork : (w.onNetwork n).answer = w.answer := by
  funext op
  cases op with
  | install p => rfl
  | profile => rfl
  | phrase => rfl
  | description => rfl
  | receive index => exact congrArg Answer.record (addressAt_onNetwork n w .receive index)
  | change index => exact congrArg Answer.record (addressAt_onNetwork n w .change index)
  | find target limit => exact congrArg Answer.record (find_onNetwork n w target limit)
  | sign message => simp only [answer, sign, master_onNetwork, ExtendedKey.sign_onNetwork]
  | signHex message =>
    simp only [answer, signHex, sign, master_onNetwork, ExtendedKey.sign_onNetwork]
  | signingSecret => exact congrArg Answer.secret (signingSecret_onNetwork n w)
  | signingPublicKey => exact congrArg Answer.publicKey (signingPublicKey_onNetwork n w)
  | verificationKey => simp only [answer, verificationKey, signingPublicKey_onNetwork]
  | encrypt body recipient nonce => simp only [answer, encrypt, signingSecret_onNetwork]
  | encryptEphemeral body entropy recipient nonce => rfl
  | decrypt payload => simp only [answer, decrypt, signingSecret_onNetwork]
  | decryptAt payload path => exact congrArg Answer.bytes (decryptAt_onNetwork n w payload path)
  | feeEstimator => rfl
  | importKey text => rfl
  | importKeyWith text profile => rfl

/-- Keys do not depend on the profile. -/
theorem answer_install {op : Operation} (h : op.worksWithKeys = true) (p : Profile) :
    (w.install p).answer op = w.answer op := by
  cases op <;> first | rfl | cases h

end

/-! ## Runs of a wallet that was opened from a phrase -/

/-- A wallet is opened under the profile that is asked for. -/
theorem profile_of_ofPhrase {phrase : String} {p : Profile} {w : Wallet}
    (h : ofPhrase phrase p = .ok w) : w.profile = p := by
  simp only [ofPhrase, Result.bind_eq_ok_iff] at h
  obtain ⟨seed, -, master, -, h⟩ := h
  cases h
  rfl

/-- After a run a wallet is one that is opened under the profile installed last, up to the network of
the master key. -/
theorem map_answer_after (phrase : String) (p : Profile) (ops : List Operation) :
    (ofPhrase phrase p).map (fun w => (w.after ops).answer) =
      (ofPhrase phrase (lastInstalled p ops)).map answer := by
  rw [ofPhrase_eq_map phrase p (lastInstalled p ops)]
  cases hw : ofPhrase phrase p with
  | error e => rfl
  | ok w =>
    have hafter : w.after ops = w.install (lastInstalled p ops) := by
      rw [after_eq_install, profile_of_ofPhrase hw]
    -- the two wallets differ in nothing but the network of their master keys
    have hnetwork : (w.onNetwork (lastInstalled p ops).network).install (lastInstalled p ops) =
        (w.install (lastInstalled p ops)).onNetwork (lastInstalled p ops).network := rfl
    rw [Except.map, Except.map, Except.map, hafter, hnetwork, answer_onNetwork]

/-- What works with keys is answered alike after every run and under every profile. -/
theorem map_answer_after_of_worksWithKeys {op : Operation} (h : op.worksWithKeys = true)
    (phrase : String) (p q : Profile) (ops : List Operation) :
    (ofPhrase phrase p).map (fun w => (w.after ops).answer op) =
      (ofPhrase phrase q).map fun w => w.answer op := by
  rw [ofPhrase_eq_map phrase p q]
  cases ofPhrase phrase p with
  | error e => rfl
  | ok w =>
    rw [Except.map, Except.map, Except.map, after_eq_install, answer_install w h,
      answer_install _ h, answer_onNetwork]

/-- The record of an answer stands at a place that was asked for. -/
theorem exists_addressAt_of_answer {w : Wallet} {op : Operation} {m : AddressRecord}
    (h : w.answer op = .record (.ok m)) :
    ∃ chain index, op.Allows m chain index ∧ w.addressAt chain index = .ok m := by
  cases op with
  | receive index =>
    exact ⟨.receive, index, ⟨rfl, rfl⟩, Answer.record.inj h⟩
  | change index =>
    exact ⟨.change, index, ⟨rfl, rfl⟩, Answer.record.inj h⟩
  | find target limit =>
    obtain ⟨front, ⟨index, chain⟩, back, hplaces, -, hm, haddress⟩ :=
      (find_eq_ok_iff w target limit m).mp (Answer.record.inj h)
    have hindex : index < limit := by
      rw [← mem_places_iff limit (index, chain), hplaces]
      simp
    rw [recordAt_eq] at hm
    exact ⟨chain, index, ⟨haddress, hindex⟩, hm⟩
  | _ => cases h

/-- A record of a run is that of the profile in force when it was asked for, at a place that was asked
for. -/
theorem record_of_answers {w : Wallet} {ops : List Operation} {k : Nat} {op : Operation}
    {m : AddressRecord} (hop : ops[k]? = some op)
    (h : (w.answers ops)[k]? = some (.record (.ok m))) :
    m.profile = lastInstalled w.profile (ops.take k) ∧
      ∃ chain index key, op.Allows m chain index ∧ m.path = .ofProfile m.profile chain index ∧
        w.master.atPath m.path = .ok key ∧ m.publicKey = key.publicKey.hex ∧
        Address.build (hash160 key.publicKey.compressed) m.profile = .ok m.address := by
  rw [getElem?_answers, hop, Option.map_some, Option.some.injEq, after_eq_install] at h
  obtain ⟨chain, index, hasked, hrecord⟩ := exists_addressAt_of_answer h
  obtain ⟨key, hkey, haddress, hpath, hprofile, hpublic⟩ :=
    (addressAt_eq_ok_iff _ chain index m).mp hrecord
  refine ⟨hprofile, chain, index, key, hasked, ?_, ?_, hpublic, ?_⟩
  · rw [hpath, hprofile]
  · rw [hpath]
    exact hkey
  · rw [hprofile]
    exact haddress

/-- **Swapping profiles leaves nothing behind.** After any run of operations a wallet opened from a
phrase answers every operation as one that is just opened under the profile installed last, whatever
network its master key was made for, and the phrase opens both or neither. Operations that install
nothing do not show in later answers, and what works with keys alone does not depend on profiles at
all. A record that was handed out along a run is made of the profile that was in force then. -/
theorem answer_after :
    (∀ phrase p ops, (ofPhrase phrase p).map (fun w => (w.after ops).answer) =
      (ofPhrase phrase (lastInstalled p ops)).map answer) ∧
    (∀ (w : Wallet) front op back, op.installed? = none →
      (w.after (front ++ op :: back)).answer = (w.after (front ++ back)).answer) ∧
    (∀ phrase p q ops op, op.worksWithKeys = true →
      (ofPhrase phrase p).map (fun w => (w.after ops).answer op) =
        (ofPhrase phrase q).map fun w => w.answer op) ∧
    (∀ (w : Wallet) ops k op m, ops[k]? = some op →
      (w.answers ops)[k]? = some (.record (.ok m)) →
      m.profile = lastInstalled w.profile (ops.take k) ∧
        ∃ chain index key, op.Allows m chain index ∧ m.path = .ofProfile m.profile chain index ∧
          w.master.atPath m.path = .ok key ∧ m.publicKey = key.publicKey.hex ∧
          Address.build (hash160 key.publicKey.compressed) m.profile = .ok m.address) := by
  refine ⟨map_answer_after, ?_, ?_, ?_⟩
  · intro w front op back h
    rw [after_append_cons h]
  · intro phrase p q ops op h
    exact map_answer_after_of_worksWithKeys h phrase p q ops
  · intro w ops k op m hop h
    exact record_of_answers hop h

end Wallet

end SeedWallet
