import IdentityMap.Binary64.Rounding
import IdentityMap.Value.Key
/-!
# Values as tagged trees

The form in which values and keys leave the program for documents of other tools: a tree with one
entry, whose name is the kind and whose content is the value. Null is its bare kind. Numbers that
are infinite or no numbers have no form of their own and become null.
-/

namespace IdentityMap

/-- What a document of numbers, texts, lists and objects can hold. -/
inductive Tree
  | null
  | bool (b : Bool)
  | integer (n : Int)
  | real (x : Binary64)
  | text (s : String)
  | list (items : List Tree)
  | object (entries : List (String × Tree))

instance : Inhabited Tree := ⟨.null⟩

namespace Tree

def tagged (tag : String) (content : Tree) : Tree := .object [(tag, content)]

def bool? : Tree → Option Bool
  | .bool b => some b
  | _ => none

def text? : Tree → Option String
  | .text s => some s
  | _ => none

/-- An integer that 64 bits hold. -/
def int64? : Tree → Option Int64
  | .integer n =>
    if -(Nat.pow 2 63 : Int) ≤ n ∧ n < Nat.pow 2 63 then some (Int64.ofInt n) else none
  | _ => none

/-- A number, whether it is written as an integer or not. -/
def number? : Tree → Option Binary64
  | .integer n => some (Binary64.ofDecimal (n < 0) n.natAbs 0)
  | .real x => some x
  | _ => none

def byte? : Tree → Option UInt8
  | .integer n => if 0 ≤ n ∧ n < 256 then some (UInt8.ofNat n.toNat) else none
  | _ => none

def bytes? : Tree → Option (List UInt8)
  | .list items => items.mapM byte?
  | _ => none

/-- The name and the content of a tree with one entry; a bare name has no content. -/
def untag? : Tree → Option (String × Option Tree)
  | .text tag => some (tag, none)
  | .object [(tag, content)] => some (tag, some content)
  | _ => none

end Tree

namespace Value

open IdentityMap.Tree (tagged)

def toTree : Value → Tree
  | null => .text "Null"
  | bool b => tagged "Bool" (.bool b)
  | int n => tagged "Int" (.integer n.toInt)
  | float x => tagged "Float" (if x.isNaN || x.isInfinite then .null else .real x)
  | decimal written => tagged "Decimal" (.text written)
  | text s => tagged "Text" (.text s)
  | bytes b => tagged "Bytes" (.list (b.map fun byte => .integer byte.toNat))
  | date d => tagged "Date" (.text d.text)
  | time t => tagged "Time" (.text t.text)
  | dateTime t => tagged "DateTime" (.text t.joinedText)

/-- The value of a kind that some content stands for. -/
def ofTagged? (tag : String) (content : Tree) : Option Value :=
  match tag with
  | "Null" => match content with
    | .null => some null
    | _ => none
  | "Bool" => content.bool?.map bool
  | "Int" => content.int64?.map int
  | "Float" => content.number?.map float
  | "Decimal" => content.text?.map decimal
  | "Text" => content.text?.map text
  | "Bytes" => content.bytes?.map bytes
  | "Date" => (content.text?.bind Calendar.Date.ofLooseText?).map date
  | "Time" => (content.text?.bind Calendar.TimeOfDay.ofLooseText?).map time
  | "DateTime" => (content.text?.bind Calendar.DateTime.ofLooseText?).map dateTime
  | _ => none

def ofTree? (tree : Tree) : Option Value :=
  match tree.untag? with
  | some ("Null", none) => some null
  | some (tag, some content) => ofTagged? tag content
  | _ => none

end Value

namespace EntityKey

open IdentityMap.Tree (tagged)

def toTree : EntityKey → Tree
  | int n => tagged "Int" (.integer n.toInt)
  | text s => tagged "Text" (.text s)
  | uuid u => tagged "Uuid" (.text (uuidText u))

/-- The digits of an identifier in groups, without the hyphens between the groups. -/
def ungroup? (text : List Char) : Option (List Char) :=
  let group (start count : Nat) : List Char := (text.drop start).take count
  if text.length = 36 ∧ [8, 13, 18, 23].all fun place => text[place]? = some '-' then
    some (group 0 8 ++ group 9 4 ++ group 14 4 ++ group 19 4 ++ group 24 12)
  else
    none

/-- What stands before an identifier that is written as a resource name. -/
def resourcePrefix : List Char := "urn:uuid:".toList

/-- The hexadecimal digits of an identifier. They are written as one group, or in groups of 8, 4, 4,
4 and 12 digits; a text in groups may stand in braces or behind `urn:uuid:` in letters of any
case. -/
def uuidDigits? (text : List Char) : Option (List Char) :=
  if text.length = 32 then some text
  else
    match text with
    | '\x7b' :: inner => if inner.getLast? = some '\x7d' then ungroup? inner.dropLast else none
    | _ =>
      if (text.take resourcePrefix.length).map Char.toLower = resourcePrefix then
        ungroup? (text.drop resourcePrefix.length)
      else ungroup? text

def uuidOfText? (text : String) : Option Uuid :=
  ((uuidDigits? text.toList).bind Text.ofHexBytes?).bind Uuid.ofBytes?

def ofTree? (tree : Tree) : Option EntityKey :=
  match tree.untag? with
  | some ("Int", some content) => content.int64?.map int
  | some ("Text", some content) => content.text?.map text
  | some ("Uuid", some content) => (content.text?.bind uuidOfText?).map uuid
  | _ => none

end EntityKey

end IdentityMap
