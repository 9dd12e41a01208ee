import ChatDice.Json.Token

/-! # JSON values

    The tree of a JSON text.  Members of objects keep their order and may repeat
    a name.  `tokens` and `written` go from a tree to its text, without white
    space; `read` goes back, by a machine that handles one token at a time and
    keeps the open arrays and objects in a list.
-/

namespace ChatDice

/-! ## Trees -/

/-- A JSON value as it stands in a text. -/
inductive Json
  | null
  | bool (b : Bool)
  | number (n : Json.Numeral)
  | string (q : Json.Quoted)
  | array (items : List Json)
  | object (members : List (Json.Quoted × Json))

namespace Json

/-- A text as a value. -/
def text (s : String) : Json := string (.ofText s)

/-- An integer as a value. -/
def int (i : Int) : Json := number (.ofInt i)

/-- An object whose members have given names. -/
def record (members : List (String × Json)) : Json :=
  object (members.map fun m => (.ofText m.1, m.2))

/-! ## Writing -/

mutual

/-- The tokens of a value. -/
def tokens : Json → List Token
  | null           => [.null]
  | bool b         => [.bool b]
  | number n       => [.number n]
  | string q       => [.string q]
  | array items    => .openArray :: itemTokens items ++ [.closeArray]
  | object members => .openObject :: memberTokens members ++ [.closeObject]

/-- The tokens of the items of an array. -/
def itemTokens : List Json → List Token
  | []      => []
  | [j]     => tokens j
  | j :: js => tokens j ++ .comma :: itemTokens js

/-- The tokens of the members of an object. -/
def memberTokens : List (Quoted × Json) → List Token
  | []           => []
  | [(k, j)]     => .string k :: .colon :: tokens j
  | (k, j) :: ms => .string k :: .colon :: tokens j ++ .comma :: memberTokens ms

end

/-- The text of a value. -/
def written (j : Json) : List Char := j.tokens.flatMap Token.written

/-! ## Reading -/

/-- An array or object that is not closed yet; what it holds so far is in reverse
order. -/
inductive Frame
  | array (items : List Json)
  /-- The value of the member `name` is being read. -/
  | object (members : List (Quoted × Json)) (name : Quoted)

/-- Where the machine is. -/
inductive Phase
  /-- A value must follow. -/
  | value (frames : List Frame)
  /-- A value or the end of an array must follow its start. -/
  | firstItem (frames : List Frame)
  /-- A name or the end of an object must follow its start. -/
  | firstName (frames : List Frame)
  /-- A further name must follow. -/
  | name (members : List (Quoted × Json)) (frames : List Frame)
  /-- A colon must follow a name. -/
  | colon (members : List (Quoted × Json)) (name : Quoted) (frames : List Frame)
  /-- A value is complete. -/
  | done (j : Json) (frames : List Frame)

/-- A token where a value must follow. -/
def startValue (frames : List Frame) : Token → Option Phase
  | .null       => some (.done null frames)
  | .bool b     => some (.done (bool b) frames)
  | .number n   => some (.done (number n) frames)
  | .string q   => some (.done (string q) frames)
  | .openArray  => some (.firstItem frames)
  | .openObject => some (.firstName frames)
  | _           => none

/-- A token after a complete value. -/
def afterValue (j : Json) : List Frame → Token → Option Phase
  | .array items :: fs,       .comma       => some (.value (.array (j :: items) :: fs))
  | .array items :: fs,       .closeArray  => some (.done (array (j :: items).reverse) fs)
  | .object members k :: fs,  .comma       => some (.name ((k, j) :: members) fs)
  | .object members k :: fs,  .closeObject => some (.done (object ((k, j) :: members).reverse) fs)
  | _,                        _            => none

/-- One step of the machine. -/
def step : Phase → Token → Option Phase
  | .value frames,              t            => startValue frames t
  | .firstItem frames,          .closeArray  => some (.done (array []) frames)
  | .firstItem frames,          t            => startValue (.array [] :: frames) t
  | .firstName frames,          .closeObject => some (.done (object []) frames)
  | .firstName frames,          .string k    => some (.colon [] k frames)
  | .name members frames,       .string k    => some (.colon members k frames)
  | .colon members k frames,    .colon       => some (.value (.object members k :: frames))
  | .done j frames,             t            => afterValue j frames t
  | _,                          _            => none

/-- Runs the machine over some tokens. -/
def run : Phase → List Token → Option Phase
  | p, []      => some p
  | p, t :: ts =>
    match step p t with
    | some p => run p ts
    | none   => none

/-- The value that some tokens make up. -/
def ofTokens (ts : List Token) : Option Json :=
  match run (.value []) ts with
  | some (.done j []) => some j
  | _                 => none

/-- The value of a text, which may have white space around tokens. -/
def read (s : List Char) : Option Json := (Token.readAll s).bind ofTokens

end Json

end ChatDice
