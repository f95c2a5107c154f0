import BuildDrift.Json.Token

/-!
# Documents as trees

The tokens of a text make a tree. A text that is no document makes a tree too, one that is damaged
at the place where the text stops being a document: a value is missing there, and every list and
record around it carries the fault that ended it. A reader that walks the tree in text order
therefore meets the faults of form and the faults of grammar in the order of the text.

## Main definitions

* `Node`: a tree, damaged or not.
* `Document`: a tree and whether the text ends behind it.
* `Document.ofText`: the document of a text.
* `Node.fault?`: why a value cannot be passed over, if it cannot.
-/

namespace BuildDrift.Json

/-- What stands where the key of a record member belongs. -/
inductive Key where
  /-- A string, or the fault of what should have been one. -/
  | text (content : Except Fault String)
  /-- A token that begins another value. -/
  | odd (token : Token)
  deriving Inhabited

/-- A document tree. -/
inductive Node where
  /-- A value of one token, possibly a broken one. -/
  | atom (token : Token)
  /-- A list, and the fault that ended it if its bracket is missing. -/
  | list (items : List Node) (stop : Option Fault)
  /-- A record, and the fault that ended it if its brace is missing. -/
  | record (members : List (Key × Node)) (stop : Option Fault)
  /-- Nothing that begins a value. -/
  | missing (fault : Fault)
  deriving Inhabited

/-- A tree, and whether the text ends behind it. -/
structure Document where
  /-- The tree. -/
  root : Node
  /-- Whether nothing but blanks follows. -/
  isAll : Bool

/-! ### Passing values over -/

namespace Token

/-- The fault of the token as a value that is passed over. -/
def fault? : Token → Option Fault
  | brokenText _ passed | brokenWord _ passed => some passed
  | _ => none

/-- The fault of the token where a key belongs. -/
def keyFault : Token → Fault
  | brokenText asked _ => asked
  | _ => .grammar

end Token

/-- Why the value cannot be passed over: a value that ends is passed over whatever it holds. -/
def Node.fault? : Node → Option Fault
  | .atom token => token.fault?
  | .list _ stop => stop
  | .record _ stop => stop
  | .missing fault => some fault

/-! ### Building the tree -/

/-- A list or record that has been opened. What it holds already is kept last first. -/
inductive Frame where
  /-- A list. -/
  | list (items : List Node)
  /-- A record with the key of the value that is being read. -/
  | record (members : List (Key × Node)) (key : Key)

/-- What is expected next. -/
inductive Expect where
  /-- A value. -/
  | value
  /-- The first item of a list, or its end. -/
  | firstItem
  /-- The first member of a record, or its end. -/
  | firstMember
  /-- A further member of the record with these members. -/
  | member (members : List (Key × Node))
  /-- The colon behind this key. -/
  | colon (members : List (Key × Node)) (key : Key)
  /-- What follows a finished value. -/
  | after (node : Node)

namespace Frame

/-- The frame closed around its last value. -/
def close (node : Node) (stop : Option Fault) : Frame → Node
  | list items => .list (node :: items).reverse stop
  | record members key => .record ((key, node) :: members).reverse stop

end Frame

/-- The tree whose innermost value is `node` when the text stops being a document. -/
def Document.damaged (frames : List Frame) (node : Node) : Document :=
  ⟨frames.foldl (fun inner frame => frame.close inner inner.fault?) node, true⟩

/-- A record that breaks off after these members, inside frames. -/
def Document.brokenRecord (frames : List Frame) (members : List (Key × Node)) (f : Fault) :
    Document :=
  .damaged frames (.record members.reverse (some f))

/-- A record that breaks off at a key. -/
def Document.brokenKey (frames : List Frame) (members : List (Key × Node)) (token : Token) :
    Document :=
  match token with
  | .brokenText asked passed =>
    .brokenRecord frames ((.text (.error asked), .missing passed) :: members) passed
  | token => .brokenRecord frames ((.odd token, .missing .grammar) :: members) .grammar

/-- What a token leads to. -/
inductive Step where
  /-- The tree goes on, inside these frames. -/
  | go (frames : List Frame) (expect : Expect)
  /-- The tree is finished. -/
  | halt (document : Document)

namespace Step

/-- The first token of a value. -/
def value (frames : List Frame) : Token → Step
  | .openList => go frames .firstItem
  | .openRecord => go frames .firstMember
  | .null => go frames (.after (.atom .null))
  | .bool b => go frames (.after (.atom (.bool b)))
  | .number n => go frames (.after (.atom (.number n)))
  | .text content => go frames (.after (.atom (.text content)))
  | .brokenText asked passed => halt (.damaged frames (.atom (.brokenText asked passed)))
  | .brokenWord asked passed => halt (.damaged frames (.atom (.brokenWord asked passed)))
  | _ => halt (.damaged frames (.missing .grammar))

/-- The token behind a finished value. -/
def after (node : Node) : List Frame → Token → Step
  | [], _ => halt ⟨node, false⟩
  | .list items :: outer, .comma => go (.list (node :: items) :: outer) .value
  | .list items :: outer, .closeList => go outer (.after ((Frame.list items).close node none))
  | .record members key :: outer, .comma => go outer (.member ((key, node) :: members))
  | .record members key :: outer, .closeRecord =>
    go outer (.after ((Frame.record members key).close node none))
  | frame :: outer, _ => halt (.damaged outer (frame.close node (some .grammar)))

/-- What a token leads to where something is expected. -/
def ofToken (frames : List Frame) : Expect → Token → Step
  | .value, token => value frames token
  | .firstItem, .closeList => go frames (.after (.list [] none))
  | .firstItem, token => value (.list [] :: frames) token
  | .firstMember, .closeRecord => go frames (.after (.record [] none))
  | .firstMember, .text content => go frames (.colon [] (.text content))
  | .firstMember, token => halt (.brokenKey frames [] token)
  | .member members, .text content => go frames (.colon members (.text content))
  | .member members, token => halt (.brokenKey frames members token)
  | .colon members key, .colon => go (.record members key :: frames) .value
  | .colon members key, _ => halt (.damaged (.record members key :: frames) (.missing .grammar))
  | .after node, token => after node frames token

end Step

/-- The tree of a text that ends where something is expected. -/
def Document.atEnd (frames : List Frame) : Expect → Document
  | .value => .damaged frames (.missing .cutShort)
  | .firstItem => .damaged frames (.list [] (some .cutShort))
  | .firstMember => .brokenRecord frames [] .cutShort
  | .member members =>
    .brokenRecord frames ((.text (.error .cutShort), .missing .cutShort) :: members) .cutShort
  | .colon members key => .damaged (.record members key :: frames) (.missing .cutShort)
  | .after node =>
    match frames with
    | [] => ⟨node, true⟩
    | frame :: outer => .damaged outer (frame.close node (some .cutShort))

/-- Builds the tree inside the opened frames, innermost first. -/
def Document.build (frames : List Frame) (expect : Expect) : List Token → Document
  | [] => .atEnd frames expect
  | token :: rest =>
    match Step.ofToken frames expect token with
    | .go frames expect => build frames expect rest
    | .halt document => document

/-- The document of a text. -/
def Document.ofText (text : String) : Document :=
  .build [] .value (Token.scan text)

end BuildDrift.Json
