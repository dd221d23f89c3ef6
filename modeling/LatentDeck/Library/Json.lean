import LatentDeck.Library.Text

/-!
# JSON documents

A document as a streaming parser hands it out: objects keep repeated keys and their order, and a
text that stops being JSON is a document up to the place where it does. A value is a document in
memory.
-/

namespace LatentDeck.Json

inductive Number where
  | posInt (value : UInt64)
  | negInt (value : Int)
  | float (bits : UInt64)

def isFinite (bits : UInt64) : Bool := bits &&& 0x7ff0000000000000 ≠ 0x7ff0000000000000

inductive Document where
  | null
  | bool (value : Bool)
  | number (value : Number)
  | string (text : String)
  | array (items : List Document) (failure : Option String)
  | object (members : List (String × Document)) (failure : Option String)
  | malformed (message : String)

/-- A parser reads the document at the start of a text and tells what is wrong after it. -/
abbrev Parser : Type := List UInt8 → Document × Option String

/-- A value in memory. The members of an object stand in the order of the map that holds them. -/
inductive Value where
  | null
  | bool (value : Bool)
  | number (value : Number)
  | string (text : String)
  | array (items : List Value)
  | object (members : List (String × Value))

/-- A character of a key as it stands in a JSON pointer. -/
def escapeCharacter (character : Char) : List Char :=
  if character = '~' then ['~', '0'] else if character = '/' then ['~', '1'] else [character]

def escapePointer (key : String) : String := String.ofList (key.toList.flatMap escapeCharacter)

/-- The pointer to a member of the value at a pointer. -/
def memberPointer (pointer key : String) : String := pointer ++ "/" ++ escapePointer key

/-- The pointer to an item of the value at a pointer. -/
def itemPointer (pointer : String) (index : Nat) : String := pointer ++ "/" ++ toString index

end LatentDeck.Json
