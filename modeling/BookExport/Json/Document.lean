import BookExport.Json.Token

/-! JSON documents as they are written: members in their order and with their repetitions, strings that
stand for no text, and the place where a text stops being JSON. Every text has a document, so that a
reader of a document meets the first fault of the text in the text's order. -/

namespace BookExport.Json

inductive Doc where
  | null
  | bool (b : Bool)
  | int (n : Int)
  | real (d : Decimal)
  | str (s : Option String)
  | arr (items : List Doc)
  | obj (members : List (Option String × Doc))
  /-- Here the text stops being JSON; nothing after it is kept. -/
  | broken
  deriving Repr, Inhabited

/-- An open list with its items, or an open record with its members and the key whose value is next; both
in reverse. -/
inductive Frame where
  | list (done : List Doc)
  | record (done : List (Option String × Doc)) (key : Option String)

/-- What must follow: a value; a value or the end of a list; a key, or the end of a record if `empty`; a
colon; or, after a value, whatever may follow it. -/
inductive Expect where
  | value (outer : List Frame)
  | item (outer : List Frame)
  | key (outer : List Frame) (done : List (Option String × Doc)) (empty : Bool)
  | colon (outer : List Frame) (done : List (Option String × Doc)) (key : Option String)
  | after (outer : List Frame) (value : Doc)

/-- A whole text: its document, and whether something follows the document. -/
structure Reading where
  doc : Doc
  trailing : Bool
  deriving Repr, Inhabited

/-- The document around a value, with every open list and record closed after it. -/
def enclose : List Frame → Doc → Doc
  | [], d => d
  | .list done :: outer, d => enclose outer (.arr (d :: done).reverse)
  | .record done key :: outer, d => enclose outer (.obj ((key, d) :: done).reverse)

def Token.scalar? : Token → Option Doc
  | .null => some .null
  | .bool b => some (.bool b)
  | .int n => some (.int n)
  | .real d => some (.real d)
  | .str s => some (.str s)
  | _ => none

def startValue (outer : List Frame) (t : Token) : Option Expect :=
  match t with
  | .openList => some (.item outer)
  | .openRecord => some (.key outer [] true)
  | t => t.scalar?.map (.after outer ·)

/-- The expectation after a token that meets this one. -/
def Expect.next? : Expect → Token → Option Expect
  | .value outer, t => startValue outer t
  | .item outer, .closeList => some (.after outer (.arr []))
  | .item outer, t => startValue (.list [] :: outer) t
  | .key outer done _, .str k => some (.colon outer done k)
  | .key outer done true, .closeRecord => some (.after outer (.obj done.reverse))
  | .colon outer done k, .colon => some (.value (.record done k :: outer))
  | .after (.list done :: outer) d, .comma => some (.value (.list (d :: done) :: outer))
  | .after (.list done :: outer) d, .closeList => some (.after outer (.arr (d :: done).reverse))
  | .after (.record done k :: outer) d, .comma => some (.key outer ((k, d) :: done) false)
  | .after (.record done k :: outer) d, .closeRecord => some (.after outer (.obj ((k, d) :: done).reverse))
  | _, _ => none

/-- The document of a text that stops being JSON here. -/
def Expect.cut : Expect → Doc
  | .value outer => enclose outer .broken
  | .item outer => enclose (.list [] :: outer) .broken
  | .key outer done _ => enclose (.record done none :: outer) .broken
  | .colon outer done k => enclose (.record done k :: outer) .broken
  | .after (.list done :: outer) d => enclose (.list (d :: done) :: outer) .broken
  | .after (.record done k :: outer) d => enclose (.record ((k, d) :: done) none :: outer) .broken
  | .after [] d => d

def readFrom : Expect → List Token → Reading
  | .after [] d, [] => ⟨d, false⟩
  | .after [] d, _ :: _ => ⟨d, true⟩
  | e, [] => ⟨e.cut, false⟩
  | e, t :: rest =>
    match e.next? t with
    | some e => readFrom e rest
    | none => ⟨e.cut, false⟩

def readSymbols (symbols : List Symbol) : Reading := readFrom (.value []) (tokens symbols)

def read (s : String) : Reading := readSymbols (s.toList.map some)

end BookExport.Json
