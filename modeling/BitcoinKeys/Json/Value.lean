import BitcoinKeys.Json.Lexer

/-!
# JSON values

The value that a text writes, read token by token with a stack of the arrays and objects that are
still open. Members of an object stay in their order, also when a name occurs twice.
-/

namespace BitcoinKeys

/-- A JSON value; strings and numbers as in `Json.Token`. -/
inductive Json where
  | null
  | bool (value : Bool)
  | number (natural? : Option Nat)
  | string (text? : Option String)
  | array (items : List Json)
  | object (members : List (Option String × Json))

namespace Json

/-- An array or object that is still open, with what it holds so far. -/
inductive Frame where
  | array (items : List Json)
  | object (members : List (Option String × Json)) (name : Option String)

/-- What the tokens read so far ask for. -/
inductive Reader where
  | needsValue (stack : List Frame)
  | needsItem (stack : List Frame)
  | needsMember (stack : List Frame)
  | needsName (stack : List Frame) (members : List (Option String × Json))
  | needsColon (stack : List Frame) (members : List (Option String × Json)) (name : Option String)
  | finished (stack : List Frame) (value : Json)

namespace Reader

def startValue (stack : List Frame) : Token → Option Reader
  | .null => some (.finished stack .null)
  | .bool value => some (.finished stack (.bool value))
  | .number natural? => some (.finished stack (.number natural?))
  | .string text? => some (.finished stack (.string text?))
  | .openArray => some (.needsItem stack)
  | .openObject => some (.needsMember stack)
  | _ => none

def takeName (stack : List Frame) (members : List (Option String × Json)) :
    Token → Option Reader
  | .string text? => some (.needsColon stack members text?)
  | _ => none

/-- Goes on behind a finished value. -/
def continueAfter (value : Json) : List Frame → Token → Option Reader
  | .array items :: stack, .comma => some (.needsValue (.array (items ++ [value]) :: stack))
  | .array items :: stack, .closeArray => some (.finished stack (.array (items ++ [value])))
  | .object members name :: stack, .comma => some (.needsName stack (members ++ [(name, value)]))
  | .object members name :: stack, .closeObject =>
      some (.finished stack (.object (members ++ [(name, value)])))
  | _, _ => none

def step : Reader → Token → Option Reader
  | .needsValue stack, token => startValue stack token
  | .needsItem stack, .closeArray => some (.finished stack (.array []))
  | .needsItem stack, token => startValue (.array [] :: stack) token
  | .needsMember stack, .closeObject => some (.finished stack (.object []))
  | .needsMember stack, token => takeName stack [] token
  | .needsName stack members, token => takeName stack members token
  | .needsColon stack members name, .colon => some (.needsValue (.object members name :: stack))
  | .needsColon .., _ => none
  | .finished stack value, token => continueAfter value stack token

def result? : Reader → Option Json
  | .finished [] value => some value
  | _ => none

end Reader

def ofTokens? (tokens : List Token) : Option Json := do
  (← tokens.foldlM Reader.step (.needsValue [])).result?

def parse? (text : String) : Option Json := do
  ofTokens? (← tokens text.toList)

end Json

end BitcoinKeys
