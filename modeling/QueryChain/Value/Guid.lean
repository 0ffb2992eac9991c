import QueryChain.Text.Hexadecimal

/-!
# Globally unique identifiers

A guid is a number of 128 bits. Its text is thirty-two lower-case hexadecimal digits in groups of
eight, four, four, four and twelve.
-/

namespace QueryChain

/-- A number of 128 bits. -/
structure Guid where
  bits : BitVec 128
deriving DecidableEq

namespace Guid

/-- The lengths of the groups of digits. -/
def groups : List Nat := [8, 4, 4, 4, 12]

/-- Cuts digits into groups of the given lengths. -/
def cut : List Nat → List Char → List (List Char)
  | [], _ => []
  | n :: ns, ds => ds.take n :: cut ns (ds.drop n)

/-- The text of a guid. -/
def text (g : Guid) : String :=
  let ds := Nat.toDigits 16 g.bits.toNat
  "-".intercalate ((cut groups (List.replicate (32 - ds.length) '0' ++ ds)).map String.ofList)

/-- The guid with the given digits. -/
def ofDigits? (ds : List Char) : Option Guid :=
  (Text.hexNumber? ds).map fun n ↦ ⟨BitVec.ofNat 128 n⟩

/-- The guid that groups of digits name. -/
def ofGroups? (s : String) : Option Guid :=
  let parts := (s.splitOn "-").map String.toList
  if parts.map List.length = groups then ofDigits? parts.flatten else none

/-- The text between two braces. -/
def inBraces? (s : String) : Option String :=
  match s.toList, s.toList.getLast? with
  | '\x7b' :: r, some '\x7d' => some (String.ofList r.dropLast)
  | _, _ => none

/-- What stands in front of a guid that is written as a resource name. -/
def resourceMark : String := "urn:uuid:"

/-- The text behind the mark of a resource name. -/
def inResourceName? (s : String) : Option String :=
  let mark := resourceMark.toList
  if mark.isPrefixOf s.toList then some (String.ofList (s.toList.drop mark.length)) else none

/-- The guid that the whole text is: thirty-two digits in either case, with nothing between them or
in groups; the groups may stand in braces or behind the mark of a resource name. -/
def ofText? (s : String) : Option Guid :=
  if s.length = 32 then ofDigits? s.toList
  else ofGroups? (((inBraces? s) <|> inResourceName? s).getD s)

end Guid

end QueryChain
