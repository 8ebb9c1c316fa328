/-!
# Descriptions of values

Wallet values are described by their name and the fields that may be shown.

- `describe name fields`: every field is shown.
- `describePartly name fields`: there are further fields, which are kept back.
-/

namespace SeedWallet.Text

/-- Fields and their values with commas between them. -/
def describeFields (fields : List (String × String)) : String :=
  String.intercalate ", " (fields.map fun f => f.1 ++ ": " ++ f.2)

/-- A value all of whose fields are shown. -/
def describe (name : String) (fields : List (String × String)) : String :=
  name ++ " \x7b " ++ describeFields fields ++ " \x7d"

/-- A value some of whose fields are kept back. -/
def describePartly (name : String) (fields : List (String × String)) : String :=
  name ++ " \x7b " ++ describeFields fields ++ ", .. \x7d"

end SeedWallet.Text
