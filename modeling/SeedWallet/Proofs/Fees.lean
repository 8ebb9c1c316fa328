import Mathlib.Algebra.Order.BigOperators.Group.List
import Mathlib.Data.List.Forall2
import SeedWallet.Fee
import SeedWallet.Proofs.OutputSizes

/-!
# Sizes and fees

A transaction has a size or none whatever it spends, since only its outputs can be refused. What it
spends adds to the size, each output by what its purpose says, so that sizes follow the laws of sums: they
do not depend on an order, they grow with each input, and they shrink where an input is of a newer kind.

Fees are made of words of 64 bits. Such words have the exact size up to multiples of 2 ^ 64, and as long
as a bound on the number of inputs rules those out the fee is the exact one, or the largest word.

- `Fee.totalSize_eq`: the inputs and what does not depend on them.
- `Fee.restSize_eq_error_iff`: when there is no size.
- `Fee.totalSize_laws`: the laws of sizes.
- `Fee.totalWord_eq`: words stand for the exact size modulo 2 ^ 64.
- `Fee.estimate_exact`: the fee is the exact product or the largest word, and grows with rate and inputs.
-/

namespace SeedWallet

/-! ## Kinds of inputs -/

/-- How many of the three kinds of addresses are older. -/
def Purpose.generation : Purpose → Nat
  | .legacy => 0
  | .nestedSegwit => 1
  | .nativeSegwit => 2

/-- Inputs of newer kinds are smaller. -/
theorem Purpose.inputSize_lt {p q : Purpose} (h : p.generation < q.generation) :
    q.inputSize < p.inputSize := by
  have all : ∀ p q : Purpose, p.generation < q.generation → q.inputSize < p.inputSize := by
    rintro (_ | _ | _) (_ | _ | _) <;> decide
  exact all p q h

theorem Purpose.inputSize_pos (p : Purpose) : 0 < p.inputSize := by
  cases p <;> decide

theorem Purpose.inputSize_le (p : Purpose) : p.inputSize ≤ 148 := by
  cases p <;> decide

theorem Purpose.outputSize_le (p : Purpose) : p.outputSize ≤ 34 := by
  cases p <;> decide

theorem AddressKind.outputSize_le (k : AddressKind) : k.outputSize ≤ 43 := by
  cases k <;> decide

namespace Fee

/-! ## What does not depend on the inputs -/

/-- The size of a transaction that spends nothing: the fixed part, the payment, and change if there is to
be any. -/
def restSize (profile : Profile) (destination : String) (change : Bool) : Result Nat := do
  let destinationBytes ← destinationSize destination
  let changeBytes ← changePart profile change
  return overhead + destinationBytes + changeBytes

/-- The inputs add to the rest, and have no part in whether there is a size. -/
theorem totalSize_eq (profile : Profile) (utxos : List Utxo) (destination : String) (change : Bool) :
    totalSize profile utxos destination change =
      (restSize profile destination change).map (inputsSize utxos + ·) := by
  have hsum : ∀ d c, overhead + inputsSize utxos + d + c = inputsSize utxos + (overhead + d + c) := by
    omega
  rw [totalSize, restSize]
  cases destinationSize destination with
  | error e => rfl
  | ok destinationBytes =>
    cases change with
    | false => exact congrArg Except.ok (hsum _ _)
    | true =>
      rw [changePart]
      cases changeSize profile with
      | error e => rfl
      | ok changeBytes => exact congrArg Except.ok (hsum _ _)

/-- There is no size of a payment exactly to what is no address, and the failure names it. -/
theorem destinationSize_eq_error_iff (destination : String) (e : WalletError) :
    destinationSize destination = .error e ↔
      (∀ kind, Address.classify destination ≠ .ok kind) ∧ e = .unsupportedAddress destination := by
  rw [destinationSize]
  cases hclassify : Address.classify destination with
  | ok kind =>
    constructor
    · intro h
      cases h
    · rintro ⟨hnone, -⟩
      exact absurd rfl (hnone kind)
  | error fault =>
    obtain ⟨rfl, -⟩ := (Address.classify_eq_error_iff destination fault).mp hclassify
    simp [Except.map, eq_comm]

theorem destinationSize_eq_ok_iff (destination : String) (n : Nat) :
    destinationSize destination = .ok n ↔
      ∃ kind, Address.classify destination = .ok kind ∧ kind.outputSize = n := by
  rw [destinationSize]
  cases Address.classify destination <;> simp [Except.map]

/-- Only wallets of the oldest kind make no change. -/
theorem changePart_eq_error_iff (profile : Profile) (change : Bool) (e : WalletError) :
    changePart profile change = .error e ↔
      change = true ∧ profile.purpose = .legacy ∧ e = .noChangeOutput 44 := by
  rw [changePart, changeSize]
  cases change with
  | false => simp
  | true => cases profile.purpose <;> simp [Purpose.originatesChange, Purpose.number, eq_comm]

theorem restSize_eq_ok_iff (profile : Profile) (destination : String) (change : Bool) (n : Nat) :
    restSize profile destination change = .ok n ↔
      ∃ destinationBytes changeBytes, destinationSize destination = .ok destinationBytes ∧
        changePart profile change = .ok changeBytes ∧
        overhead + destinationBytes + changeBytes = n := by
  simp only [restSize, Result.bind_eq_ok_iff]
  constructor
  · rintro ⟨d, hd, c, hc, h⟩
    exact ⟨d, c, hd, hc, Except.ok.inj h⟩
  · rintro ⟨d, c, hd, hc, rfl⟩
    exact ⟨d, hd, c, hc, rfl⟩

/-- The destination is looked at before the change. -/
theorem restSize_eq_error_iff (profile : Profile) (destination : String) (change : Bool)
    (e : WalletError) :
    restSize profile destination change = .error e ↔
      (∀ kind, Address.classify destination ≠ .ok kind) ∧ e = .unsupportedAddress destination ∨
      (∃ kind, Address.classify destination = .ok kind) ∧ change = true ∧
        profile.purpose = .legacy ∧ e = .noChangeOutput 44 := by
  rw [restSize, Result.bind_eq_error_iff, destinationSize_eq_error_iff]
  refine or_congr_right ?_
  constructor
  · rintro ⟨d, hd, h⟩
    obtain ⟨kind, hkind, -⟩ := (destinationSize_eq_ok_iff destination d).mp hd
    rw [Result.bind_eq_error_iff] at h
    rcases h with h | ⟨c, -, h⟩
    · exact ⟨⟨kind, hkind⟩, (changePart_eq_error_iff profile change e).mp h⟩
    · cases h
  · rintro ⟨⟨kind, hkind⟩, h⟩
    refine ⟨_, (destinationSize_eq_ok_iff destination _).mpr ⟨kind, hkind, rfl⟩, ?_⟩
    rw [(changePart_eq_error_iff profile change e).mpr h]
    rfl

theorem totalSize_eq_ok_iff (profile : Profile) (utxos : List Utxo) (destination : String)
    (change : Bool) (n : Nat) :
    totalSize profile utxos destination change = .ok n ↔
      ∃ rest, restSize profile destination change = .ok rest ∧ inputsSize utxos + rest = n := by
  rw [totalSize_eq]
  cases restSize profile destination change <;> simp [Except.map]

/-- Whether and how a size is refused does not depend on the inputs. -/
theorem totalSize_eq_error_iff (profile : Profile) (utxos : List Utxo) (destination : String)
    (change : Bool) (e : WalletError) :
    totalSize profile utxos destination change = .error e ↔
      restSize profile destination change = .error e := by
  rw [totalSize_eq]
  cases restSize profile destination change <;> simp [Except.map]

/-! ## Laws of the inputs -/

theorem inputsSize_perm {xs ys : List Utxo} (h : xs.Perm ys) : inputsSize xs = inputsSize ys :=
  (h.map inputSize).sum_nat

theorem inputsSize_eq_of_purposes {xs ys : List Utxo}
    (h : xs.map (fun u => u.path.purpose) = ys.map fun u => u.path.purpose) :
    inputsSize xs = inputsSize ys := by
  have hsizes : ∀ zs : List Utxo,
      zs.map inputSize = (zs.map fun u => u.path.purpose).map Purpose.inputSize := by
    intro zs
    rw [List.map_map]
    rfl
  rw [inputsSize, inputsSize, hsizes, hsizes, h]

/-- The second list has inputs of newer kinds at some places of the first one, and the same inputs at
the others. -/
def Modernized (xs ys : List Utxo) : Prop :=
  List.Forall₂ (fun u v => v = u ∨ u.path.purpose.generation < v.path.purpose.generation) xs ys

theorem inputsSize_le_of_modernized {xs ys : List Utxo} (h : Modernized xs ys) :
    inputsSize ys ≤ inputsSize xs := by
  induction h with
  | nil => exact Nat.le_refl _
  | cons hinput _ ih =>
    rw [inputsSize_cons, inputsSize_cons]
    rcases hinput with rfl | hnewer
    · exact Nat.add_le_add_left ih _
    · exact Nat.add_le_add (Purpose.inputSize_lt hnewer).le ih

/-- Any newer input makes the inputs smaller. -/
theorem inputsSize_lt_of_modernized {xs ys : List Utxo} (h : Modernized xs ys) (hne : xs ≠ ys) :
    inputsSize ys < inputsSize xs := by
  induction h with
  | nil => exact absurd rfl hne
  | cons hinput hrest ih =>
    rw [inputsSize_cons, inputsSize_cons]
    rcases hinput with rfl | hnewer
    · -- the newer input is further back
      exact Nat.add_lt_add_left (ih fun heq => hne (congrArg _ heq)) _
    · exact Nat.add_lt_add_of_lt_of_le (Purpose.inputSize_lt hnewer)
        (inputsSize_le_of_modernized hrest)

theorem inputsSize_le_of_sublist {xs ys : List Utxo} (h : xs.Sublist ys) :
    inputsSize xs ≤ inputsSize ys :=
  (h.map inputSize).sum_le_sum fun _ _ => Nat.zero_le _

theorem inputsSize_le (utxos : List Utxo) : inputsSize utxos ≤ 148 * utxos.length := by
  induction utxos with
  | nil => exact Nat.le_refl _
  | cons u utxos ih =>
    have hinput : inputSize u ≤ 148 := u.purpose.inputSize_le
    rw [inputsSize_cons, List.length_cons]
    omega

/-! ## Laws of sizes -/

/-- One list of inputs has a size only if all have, and the sizes differ by the inputs. -/
theorem exists_rest_of_totalSize {profile : Profile} {zs : List Utxo} {destination : String}
    {change : Bool} {n : Nat} (h : totalSize profile zs destination change = .ok n) :
    ∃ rest, ∀ xs, totalSize profile xs destination change = .ok (inputsSize xs + rest) := by
  obtain ⟨rest, hrest, -⟩ := (totalSize_eq_ok_iff profile zs destination change n).mp h
  exact ⟨rest, fun xs => (totalSize_eq_ok_iff profile xs destination change _).mpr ⟨rest, hrest, rfl⟩⟩

/-- **Sizes add up.** There is no size exactly where the destination is no address, or change is asked of
a wallet that makes none, and then there is none whatever is spent. Otherwise every list of inputs has a
size, for lists one after the other the sum of theirs with what does not depend on inputs counted once; it
depends on the purposes of the inputs alone and not on their order, it grows with every input, and it
shrinks when inputs are replaced by some of a newer kind. -/
theorem totalSize_laws (profile : Profile) (destination : String) (change : Bool) :
    (∀ e, (∃ xs, totalSize profile xs destination change = .error e) ↔
      ∀ xs, totalSize profile xs destination change = .error e) ∧
    (∀ xs e, totalSize profile xs destination change = .error e ↔
      (∀ kind, Address.classify destination ≠ .ok kind) ∧ e = .unsupportedAddress destination ∨
      (∃ kind, Address.classify destination = .ok kind) ∧ change = true ∧
        profile.purpose = .legacy ∧ e = .noChangeOutput 44) ∧
    (∀ zs n, totalSize profile zs destination change = .ok n →
      ∃ size : List Utxo → Nat, (∀ xs, totalSize profile xs destination change = .ok (size xs)) ∧
        (∀ xs ys, size (xs ++ ys) + size [] = size xs + size ys) ∧
        (∀ xs ys, xs.Perm ys → size xs = size ys) ∧
        (∀ xs ys, xs.map (fun u => u.path.purpose) = ys.map (fun u => u.path.purpose) →
          size xs = size ys) ∧
        (∀ xs u ys, size (xs ++ ys) < size (xs ++ u :: ys)) ∧
        (∀ xs ys, Modernized xs ys → xs ≠ ys → size ys < size xs)) := by
  refine ⟨fun e => ?_, fun xs e => ?_, fun zs n h => ?_⟩
  · -- the inputs have no part in a failure
    simp only [totalSize_eq_error_iff, exists_const, forall_const]
  · rw [totalSize_eq_error_iff, restSize_eq_error_iff]
  · obtain ⟨rest, hsize⟩ := exists_rest_of_totalSize h
    refine ⟨fun xs => inputsSize xs + rest, hsize, fun xs ys => ?_, fun xs ys hperm => ?_,
      fun xs ys hpurposes => ?_, fun xs u ys => ?_, fun xs ys hnewer hne => ?_⟩
    · show inputsSize (xs ++ ys) + rest + (0 + rest) = inputsSize xs + rest + (inputsSize ys + rest)
      rw [inputsSize_append]
      omega
    · exact congrArg (· + rest) (inputsSize_perm hperm)
    · exact congrArg (· + rest) (inputsSize_eq_of_purposes hpurposes)
    · have hinput : 0 < inputSize u := u.purpose.inputSize_pos
      show inputsSize (xs ++ ys) + rest < inputsSize (xs ++ u :: ys) + rest
      rw [inputsSize_append, inputsSize_append, inputsSize_cons]
      omega
    · exact Nat.add_lt_add_right (inputsSize_lt_of_modernized hnewer hne) rest

/-- A newer input in place of the only one makes the transaction smaller. -/
theorem totalSize_laws_replaced :
    ∃ older newer,
      totalSize .importDefault [.create "" 0 0 ⟨.legacy, 0, 0, .receive, 0⟩]
        (Address.written .nestedSegwit .testnet (hash160 [])) true = .ok older ∧
      totalSize .importDefault [.create "" 0 0 ⟨.nestedSegwit, 0, 0, .receive, 0⟩]
        (Address.written .nestedSegwit .testnet (hash160 [])) true = .ok newer ∧
      newer < older := by
  have hempty : totalSize .importDefault []
      (Address.written .nestedSegwit .testnet (hash160 [])) true = .ok 74 := by
    rw [totalSize, destinationSize_written]
    rfl
  obtain ⟨-, -, hlaws⟩ := totalSize_laws .importDefault
    (Address.written .nestedSegwit .testnet (hash160 [])) true
  obtain ⟨size, hsize, -, -, -, -, hnewer⟩ := hlaws [] 74 hempty
  refine ⟨_, _, hsize _, hsize _, hnewer _ _ ?_ (by decide)⟩
  exact .cons (.inr (by decide)) .nil

/-! ## Words -/

/-- Running sums of words stand for running sums. -/
theorem foldl_add_eq (utxos : List Utxo) (n : Nat) :
    utxos.foldl (fun sum u => sum + UInt64.ofNat (inputSize u)) (UInt64.ofNat n) =
      UInt64.ofNat (n + inputsSize utxos) := by
  induction utxos generalizing n with
  | nil => rfl
  | cons u utxos ih =>
    rw [List.foldl_cons, ← UInt64.ofNat_add, ih, inputsSize_cons, Nat.add_assoc]

theorem inputsWord_eq (utxos : List Utxo) : inputsWord utxos = UInt64.ofNat (inputsSize utxos) := by
  have hsum := foldl_add_eq utxos 0
  rwa [Nat.zero_add] at hsum

/-- Words add up to the exact size, up to multiples of 2 ^ 64. -/
theorem totalWord_eq (profile : Profile) (utxos : List Utxo) (destination : String) (change : Bool) :
    totalWord profile utxos destination change =
      (totalSize profile utxos destination change).map UInt64.ofNat := by
  rw [totalSize_eq, totalWord, restSize]
  cases destinationSize destination with
  | error e => rfl
  | ok d =>
    cases changePart profile change with
    | error e => rfl
    | ok c =>
      have hsum : UInt64.ofNat overhead + inputsWord utxos + UInt64.ofNat d + UInt64.ofNat c =
          UInt64.ofNat (inputsSize utxos + (overhead + d + c)) := by
        rw [inputsWord_eq, ← UInt64.ofNat_add, ← UInt64.ofNat_add, ← UInt64.ofNat_add]
        congr 1
        omega
      exact congrArg Except.ok hsum

theorem changePart_le {profile : Profile} {change : Bool} {n : Nat}
    (h : changePart profile change = .ok n) : n ≤ 34 := by
  rw [changePart, changeSize] at h
  split at h
  · split at h
    · cases h
      exact profile.purpose.outputSize_le
    · cases h
  · cases h
    exact Nat.zero_le _

/-- No payment is larger than one to a script by segwit, and no change larger than one to a legacy key. -/
theorem restSize_le {profile : Profile} {destination : String} {change : Bool} {n : Nat}
    (h : restSize profile destination change = .ok n) : n ≤ 11 + 43 + 34 := by
  obtain ⟨d, c, hd, hc, rfl⟩ := (restSize_eq_ok_iff profile destination change n).mp h
  obtain ⟨kind, -, rfl⟩ := (destinationSize_eq_ok_iff destination d).mp hd
  have hkind := kind.outputSize_le
  have hchange := changePart_le hc
  rw [overhead]
  omega

/-- So many inputs that the largest ones fit into a word with the largest outputs. -/
def Fits (utxos : List Utxo) : Prop :=
  11 + 148 * utxos.length + 43 + 34 < 2 ^ 64

theorem totalSize_lt {profile : Profile} {utxos : List Utxo} {destination : String} {change : Bool}
    {n : Nat} (hfits : Fits utxos) (h : totalSize profile utxos destination change = .ok n) :
    n < 2 ^ 64 := by
  obtain ⟨rest, hrest, rfl⟩ := (totalSize_eq_ok_iff profile utxos destination change n).mp h
  have hinputs := inputsSize_le utxos
  have hoverall := restSize_le hrest
  rw [Fits] at hfits
  omega

/-- Without more inputs than that a word is the exact size. -/
theorem totalWord_eq_ok_iff {utxos : List Utxo} (hfits : Fits utxos) (profile : Profile)
    (destination : String) (change : Bool) (size : UInt64) :
    totalWord profile utxos destination change = .ok size ↔
      totalSize profile utxos destination change = .ok size.toNat := by
  rw [totalWord_eq]
  cases hsize : totalSize profile utxos destination change with
  | error e => simp [Except.map]
  | ok n =>
    show Except.ok (UInt64.ofNat n) = Except.ok size ↔ Except.ok n = Except.ok size.toNat
    rw [Except.ok.injEq, Except.ok.injEq, ← UInt64.toNat_inj, UInt64.toNat_ofNat',
      Nat.mod_eq_of_lt (totalSize_lt hfits hsize)]

/-- Nor does any running sum of the inputs wrap around. -/
theorem toNat_inputsWord {utxos front back : List Utxo} (hfits : Fits utxos)
    (h : utxos = front ++ back) : (inputsWord front).toNat = inputsSize front := by
  have hroom : inputsSize front < 2 ^ 64 := by
    have hinputs := inputsSize_le utxos
    have happend := inputsSize_append front back
    rw [← h] at happend
    rw [Fits] at hfits
    omega
  rw [inputsWord_eq, UInt64.toNat_ofNat', Nat.mod_eq_of_lt hroom]

/-! ## Fees -/

theorem saturatingMul_mono {size size' rate rate' : UInt64} (hsize : size ≤ size')
    (hrate : rate ≤ rate') : saturatingMul size rate ≤ saturatingMul size' rate' := by
  rw [UInt64.le_iff_toNat_le] at hsize hrate ⊢
  rw [toNat_saturatingMul, toNat_saturatingMul]
  have hproduct := Nat.mul_le_mul hsize hrate
  omega

theorem le_saturatingMul {size rate : UInt64} (h : 1 ≤ rate) : size ≤ saturatingMul size rate := by
  rw [UInt64.le_iff_toNat_le] at h ⊢
  rw [toNat_saturatingMul]
  have hword := size.toNat_lt
  have hproduct := Nat.le_mul_of_pos_right size.toNat h
  omega

/-- With more inputs there is a size again, which is not smaller. -/
theorem exists_totalWord_of_sublist {profile : Profile} {utxos more : List Utxo}
    {destination : String} {change : Bool} {size : UInt64} (hfits : Fits utxos) (hmore : Fits more)
    (h : utxos.Sublist more) (hsize : totalWord profile utxos destination change = .ok size) :
    ∃ size', totalWord profile more destination change = .ok size' ∧ size ≤ size' := by
  have hexact := (totalWord_eq_ok_iff hfits profile destination change size).mp hsize
  obtain ⟨rest, hrest⟩ := exists_rest_of_totalSize hexact
  obtain ⟨size', hsize'⟩ : ∃ size', totalWord profile more destination change = .ok size' := by
    rw [totalWord_eq, hrest]
    exact ⟨_, rfl⟩
  refine ⟨size', hsize', ?_⟩
  have hexact' := (totalWord_eq_ok_iff hmore profile destination change size').mp hsize'
  rw [hrest] at hexact hexact'
  rw [UInt64.le_iff_toNat_le, ← Except.ok.inj hexact, ← Except.ok.inj hexact']
  exact Nat.add_le_add_right (inputsSize_le_of_sublist h) rest

/-- **Fees do not wrap around.** With inputs few enough for a word, and whatever is paid at whatever rate,
the size in words is the exact sum, as are the running sums of the inputs. The fee is the product of size
and rate exactly if there is a word for it, and the largest word if not. So it is not below the size at
any rate but zero, and neither a larger rate nor more inputs make it smaller. -/
theorem estimate_exact (profile : Profile) {utxos : List Utxo} (hfits : Fits utxos)
    {destination : String} {change : Bool} {size : UInt64}
    (hsize : totalWord profile utxos destination change = .ok size) (rate : UInt64) :
    (∃ destinationBytes changeBytes, destinationSize destination = .ok destinationBytes ∧
      changePart profile change = .ok changeBytes ∧
      size.toNat = overhead + (utxos.map inputSize).sum + destinationBytes + changeBytes) ∧
    (∀ front back, utxos = front ++ back → (inputsWord front).toNat = (front.map inputSize).sum) ∧
    ∃ fee, estimate profile utxos destination change rate = .ok fee ∧
      fee.toNat = min (size.toNat * rate.toNat) (2 ^ 64 - 1) ∧
      (fee.toNat = size.toNat * rate.toNat ↔ size.toNat * rate.toNat < 2 ^ 64) ∧
      (2 ^ 64 ≤ size.toNat * rate.toNat → fee.toNat = 2 ^ 64 - 1) ∧
      (1 ≤ rate → size ≤ fee) ∧
      ∀ more rate', utxos.Sublist more → Fits more → rate ≤ rate' →
        ∃ fee', estimate profile more destination change rate' = .ok fee' ∧ fee ≤ fee' := by
  refine ⟨?_, fun front back h => toNat_inputsWord hfits h, saturatingMul size rate, ?_,
    toNat_saturatingMul size rate, ?_, ?_, le_saturatingMul, ?_⟩
  · have hexact := (totalWord_eq_ok_iff hfits profile destination change size).mp hsize
    obtain ⟨rest, hrest, hsum⟩ := (totalSize_eq_ok_iff profile utxos destination change _).mp hexact
    obtain ⟨d, c, hd, hc, rfl⟩ := (restSize_eq_ok_iff profile destination change rest).mp hrest
    refine ⟨d, c, hd, hc, ?_⟩
    rw [← hsum, inputsSize]
    omega
  · rw [estimate, hsize]
    rfl
  · rw [toNat_saturatingMul]
    omega
  · intro hlarge
    rw [toNat_saturatingMul]
    omega
  · intro more rate' hmore hfits' hrate
    obtain ⟨size', hsize', hle⟩ := exists_totalWord_of_sublist hfits hfits' hmore hsize
    refine ⟨saturatingMul size' rate', ?_, saturatingMul_mono hle hrate⟩
    rw [estimate, hsize']
    rfl

/-- At the largest rate the fee is the largest word. -/
theorem estimate_exact_saturated :
    Fits [.create "" 0 0 ⟨.nativeSegwit, 0, 0, .receive, 0⟩] ∧
      ∃ fee, estimate .importDefault [.create "" 0 0 ⟨.nativeSegwit, 0, 0, .receive, 0⟩]
          (Address.written .nativeSegwit .mainnet (hash160 [])) true 0xffffffffffffffff = .ok fee ∧
        fee.toNat = 2 ^ 64 - 1 := by
  have hfits : Fits [.create "" 0 0 ⟨.nativeSegwit, 0, 0, .receive, 0⟩] := by
    rw [Fits]
    decide
  have hsize : totalWord .importDefault [.create "" 0 0 ⟨.nativeSegwit, 0, 0, .receive, 0⟩]
      (Address.written .nativeSegwit .mainnet (hash160 [])) true = .ok 141 := by
    rw [totalWord, destinationSize_written]
    rfl
  obtain ⟨-, -, fee, hfee, -, -, hlarge, -⟩ :=
    estimate_exact .importDefault hfits hsize 0xffffffffffffffff
  exact ⟨hfits, fee, hfee, hlarge (by decide)⟩

end Fee

end SeedWallet
