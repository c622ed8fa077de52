import TypedTables.Manifest.Basic

/-!
# Bound members

A column is written to the member of the generated type that has its name.  Only members that can
be reached are bound, and further ones may be provided.  The members of a type are collected once,
under the full name of the type.
-/

namespace TypedTables.Binding

open TypedTables.Schema TypedTables.Manifest

/-- A member that a column can be written to. -/
structure BoundMember where
  name : String
  /-- Its identifier in the generated code. -/
  member : String
  type : TypeRef
  index : Nat
  deriving Repr, DecidableEq, Inhabited

/-- Members by the name that a column has for them, in order of declaration. -/
abbrev Members := List (String × BoundMember)

/-- Adds or removes members of a type. -/
abbrev Provider := Descriptor → Members → Members

/-- Whether a member can be reached: a public one, or a private one under a name of its own, that
is declared and can be both read and written. -/
def isReachable (member : Member) : Bool :=
  !member.synthesized && !(member.isPrivate && member.rename.isNone) &&
    match member.access with
    | .field => true
    | .property readable writable => readable && writable

def bind (member : Member) : BoundMember :=
  ⟨member.bindingName, member.name, member.type, member.index⟩

/-- The declared members of a type that can be reached. -/
def declaredMembers (descriptor : Descriptor) : Members :=
  (descriptor.members.filter isReachable).foldl
    (fun members member => setEntry (bind member).name (bind member) members) []

/-- The members of a type, those of the providers included. -/
def membersOf (providers : List Provider) (descriptor : Descriptor) : Members :=
  providers.foldl (fun members provide => provide descriptor members) (declaredMembers descriptor)

/-- The members collected so far, by the full name of their type. -/
abbrev MemberCache := List (String × Members)

/-- The members of a type: those collected under its full name, or else collected now. -/
def cachedMembers (providers : List Provider) (descriptor : Descriptor) (cache : MemberCache) :
    Members × MemberCache :=
  match entryValue? descriptor.fullName cache with
  | some members => (members, cache)
  | none =>
    let members := membersOf providers descriptor
    (members, cache ++ [(descriptor.fullName, members)])

end TypedTables.Binding
