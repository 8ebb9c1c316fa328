import SeedWallet.Json.Reader
import SeedWallet.Main
import SeedWallet.Proofs.Alphabet
import SeedWallet.Proofs.Digits
import SeedWallet.Proofs.Base58
import SeedWallet.Proofs.Bech32
import SeedWallet.Proofs.Regrouping
import SeedWallet.Proofs.Segwit
import SeedWallet.Proofs.SegwitAddress
import SeedWallet.Proofs.AddressFamilies
import SeedWallet.Proofs.BurstErrors
import SeedWallet.Proofs.AddressRecords
import SeedWallet.Proofs.AddressSearch
import SeedWallet.Proofs.ProfileSwaps
import SeedWallet.Proofs.PrimeModuli
import SeedWallet.Proofs.CurveGroup
import SeedWallet.Proofs.SharedSecrets
import SeedWallet.Proofs.SealedPayloads
import SeedWallet.Proofs.PlainText
import SeedWallet.Proofs.TextWords
import SeedWallet.Proofs.Mnemonics
import SeedWallet.Proofs.Numerals
import SeedWallet.Proofs.PathText
import SeedWallet.Proofs.HexText
import SeedWallet.Proofs.PublicKeys
import SeedWallet.Proofs.RecordKeys
import SeedWallet.Proofs.WrittenAddresses
import SeedWallet.Proofs.OutputSizes
import SeedWallet.Proofs.ImportedKeys
import SeedWallet.Proofs.Selections
import SeedWallet.Proofs.JsonText
import SeedWallet.Proofs.JsonRecords
import SeedWallet.Proofs.ReportText
import SeedWallet.Proofs.KeyPairs
import SeedWallet.Proofs.SignatureText
import SeedWallet.Proofs.Signatures
import SeedWallet.Proofs.SignedMessages
import SeedWallet.Proofs.OpenedPayloads
import SeedWallet.Proofs.Fees
import SeedWallet.Proofs.KeyPaths
import SeedWallet.Proofs.HumanReadableParts
import SeedWallet.Proofs.SegwitFaults
import SeedWallet.Proofs.KeyDigits
import SeedWallet.Proofs.SettingPlaces
import SeedWallet.Proofs.SettingSources
import SeedWallet.Proofs.DisregardedVariables
import SeedWallet.Proofs.PathSpellings
import SeedWallet.Proofs.AddressSpellings
import SeedWallet.Proofs.RejectedSecrets
import SeedWallet.Proofs.CompleteReports
