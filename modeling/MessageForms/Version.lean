import MessageForms.Number.Decimal

/-!
# Version
-/

namespace MessageForms

/-- The version of the library: its major, minor and patch number. -/
def version : List Nat := [1, 0, 0]

/-- The text of a version. -/
def versionText (version : List Nat) : Text :=
  ([Byte.point].intercalate (version.map digitsOfNat))

end MessageForms
