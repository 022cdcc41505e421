import SavingsCircle.Text.Encoding

/-!
# Media types

The value of a content type header: a name, and behind semicolons parameters, each a name and a
value. Between the parts only spaces can stand. A value is a token or stands in quotation marks,
where a backslash takes the next character as it is. Of a repeated parameter the last one counts.
-/

namespace SavingsCircle.Http

structure MediaType where
  /-- The type and subtype, in lower case. -/
  name : String
  /-- The parameters as they come, their names in lower case. -/
  parameters : List (String × String)

namespace MediaType

def isToken (c : Char) : Bool := c.isAlphanum || "!#$%&'*+-.^_`|~".toList.contains c

def skipSpaces (cs : List Char) : List Char := cs.dropWhile (· = ' ')

/-- Whether a character can stand as it is between quotation marks. -/
def isQuotable (c : Char) : Bool :=
  let code := c.toNat
  0x20 ≤ code && code ≤ 0xff && c != '"' && c != '\\' && code != 0x7f

/-- Reads the rest of a quoted value up to its closing quotation mark. -/
def readQuoted? : List Char → Option (List Char × List Char)
  | [] => none
  | '"' :: rest => some ([], rest)
  | '\\' :: c :: rest =>
    if 0x20 ≤ c.toNat ∧ c.toNat ≤ 0x7e then
      (readQuoted? rest).map fun (value, rest) => (c :: value, rest)
    else none
  | c :: rest =>
    if isQuotable c then (readQuoted? rest).map fun (value, rest) => (c :: value, rest) else none

def readToken? (cs : List Char) : Option (List Char × List Char) :=
  let token := cs.takeWhile isToken
  if token.isEmpty then none else some (token, cs.dropWhile isToken)

def readValue? : List Char → Option (List Char × List Char)
  | '"' :: rest => readQuoted? rest
  | cs => readToken? cs

def readParameter? (cs : List Char) : Option ((String × String) × List Char) := do
  let (name, rest) ← readToken? (skipSpaces cs)
  match skipSpaces rest with
  | '=' :: rest =>
    let (value, rest) ← readValue? (skipSpaces rest)
    return (((String.ofList name).toLower, String.ofList value), skipSpaces rest)
  | _ => none

/-- Reads parameters up to the end. The fuel bounds their count. -/
def readParameters? : Nat → List Char → Option (List (String × String))
  | _, [] => some []
  | fuel + 1, ';' :: rest =>
    (readParameter? rest).bind fun (parameter, rest) =>
      (readParameters? fuel rest).map (parameter :: ·)
  | _, _ => none

/-- The media type that a header tells, if its form is right. -/
def read? (header : String) : Option MediaType :=
  let cs := header.toList
  let written := skipSpaces (cs.takeWhile (· != ';'))
  let name := (skipSpaces written.reverse).reverse
  (readParameters? cs.length (cs.dropWhile (· != ';'))).map fun parameters =>
    { name := (String.ofList name).toLower, parameters }

def parameter? (type : MediaType) (name : String) : Option String :=
  type.parameters.reverse.lookup name

def isJson (type : MediaType) : Bool := type.name == "application/json"

/-- The encoding of a text of this type, if it is a known one of Unicode. A type that names none
means the usual one. -/
def encoding? (type : MediaType) : Option Text.Encoding :=
  match (type.parameter? "charset").getD "" with
  | "" => some .utf8
  | name => if "utf-".isPrefixOf name.toLower then Text.Encoding.ofName? name else none

end MediaType

end SavingsCircle.Http
