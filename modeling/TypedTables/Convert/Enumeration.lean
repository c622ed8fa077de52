import TypedTables.Binding.Catalog
import TypedTables.Convert.Coerce

/-!
# Cells of enumerations

A cell names a variant by its label, by its identifier, or by its number.
-/

namespace TypedTables.Convert

open TypedTables.Schema TypedTables.Manifest TypedTables.Number TypedTables.Text

/-- The first variant with a number of 64 bits. -/
def numbered? (descriptor : Descriptor) (number : Int) : Option Variant :=
  if (IntRange.signed 64).contains number then
    descriptor.variants.find? fun variant => variant.value == some number
  else none

def variantFor? (descriptor : Descriptor) : Value → Option Variant
  | .variant _ name => descriptor.variant? name
  | .text text =>
    descriptor.variant? text <|> (readInt? (trim text)).bind (numbered? descriptor)
  | value => (whole? value).bind (numbered? descriptor)

/-- Converts a value that is not blank into a variant. -/
def toVariant (descriptor : Descriptor) (value : Value) : Outcome Value :=
  match variantFor? descriptor value with
  | some variant => .ok (.variant descriptor.fullName variant.name)
  | none => .error (.coercionIn value.toText descriptor.name "no such enum variant")

end TypedTables.Convert
