import SavingsCircle.Text.Radix

/-!
# Targets of requests

A target is a path with a query behind a question mark, or a whole address with a scheme and a host
in front of them. Most targets are read plainly: what stands before the first question mark is the
path. A target that is a whole address, or that has a number sign, is read in general, which allows
for more and changes more: backslashes count as slashes, user and host are dropped, what follows a
number sign is dropped, and some characters are escaped.

`Locator.below` reads what is left of a target under a mount point, for routes that are mounted
there.
-/

namespace SavingsCircle.Http

structure Locator where
  /-- The path, which is empty if the target has none. -/
  path : List Char
  query : List Char

namespace Locator

def isEnd (c : Char) : Bool := c = '?' || c = '#'

def isAllowed (c : Char) : Bool := 0x20 < c.toNat && c.toNat < 0x7f

/-- Whether a character can stand in the front of a whole address, for user, host and port. -/
def isAuthority (c : Char) : Bool := c.isAlphanum || "!$%&'()*+,-.:;=@[]_~".toList.contains c

/-- Whether the rest of a whole address behind its scheme has a front that can be one. -/
def hasAuthority (address : List Char) : Bool :=
  let front := address.takeWhile fun c => c != '/' && c != '?'
  front.all isAuthority && !(front.zip (front.drop 1)).contains ('@', '@')

/-- Whether a target is either a path, a star with anything behind it, or a whole address. -/
def isWellFormed (target : List Char) : Bool :=
  target.all isAllowed &&
    match target with
    | [] => false
    | c :: _ =>
      if c = '/' ∨ c = '*' then true
      else
        match target.dropWhile Char.isAlpha with
        | ':' :: '/' :: '/' :: address => c.isAlpha && hasAuthority address
        | _ => false

/-- Parts a target at its first question mark. -/
def split (target : List Char) : Locator :=
  ⟨target.takeWhile (· != '?'), (target.dropWhile (· != '?')).drop 1⟩

/-- Makes slashes of the backslashes in a path. -/
def straighten (target : List Char) : List Char :=
  (target.takeWhile fun c => !isEnd c).map (fun c => if c = '\\' then '/' else c) ++
    target.dropWhile fun c => !isEnd c

def escape (c : Char) : List Char :=
  if "\"'<>\\^`\x7b|\x7d".toList.contains c then
    ['%', (Text.digitChar (c.toNat / 16)).toUpper, (Text.digitChar (c.toNat % 16)).toUpper]
  else [c]

/-- Whether a character cannot stand in the name of a host. -/
def isForeign (c : Char) : Bool := "\"%';<>\\^`\x7b|\x7d".toList.contains c

def scheme (target : List Char) : List Char :=
  let isPart (c : Char) := c.isAlphanum || c = '.' || c = '+' || c = '-'
  match target.takeWhile isPart, target.dropWhile isPart with
  | c :: cs, ':' :: _ => c :: cs ++ [':']
  | _, _ => []

/-- The scheme of programs. Its addresses have no host, and what they say stands as it is. -/
def program : String := "javascript:"

/-- The schemes whose addresses have a path even where none is written. -/
def rooted : List String := ["http:", "https:", "ftp:", "gopher:", "file:", "ws:", "wss:"]

/-- Whether a target without a scheme names a user and a host all the same. -/
def namesUser (target : List Char) : Bool :=
  match target with
  | '/' :: '/' :: rest =>
    let isName (c : Char) := c != '@' && c != '/'
    match rest.takeWhile isName, rest.dropWhile isName with
    | _ :: _, '@' :: c :: _ => isName c
    | _, _ => false
  | _ => false

/-- The part of a list behind the last item of a kind, or all of it if there is none. -/
def afterLast (isMark : Char → Bool) (cs : List Char) : List Char :=
  (cs.reverse.takeWhile fun c => !isMark c).reverse

/-- Drops user, host and port from the front of an address. Whether there was a host is told as
well. What looks like a port and is none is left, behind a slash. -/
def dropHost (address : List Char) : Bool × List Char :=
  let isHost (c : Char) := c != '/' && !isEnd c
  let named := afterLast (· = '@') (address.takeWhile isHost)
  let host := named.takeWhile fun c => !isForeign c
  let rest := named.drop host.length ++ address.dropWhile isHost
  let port := afterLast (· = ':') host
  let name := if host.contains ':' && port.all Char.isDigit
    then host.take (host.length - port.length - 1) else host
  if name.head? = some '[' ∧ name.getLast? = some ']' then
    (true, if rest.head? = some '/' then rest else '/' :: rest)
  else if name.contains ':' then
    let kept := name.takeWhile (· != ':')
    (!kept.isEmpty, '/' :: name.drop kept.length ++ rest)
  else (!name.isEmpty, rest)

/-- Reads a target in general. -/
def readGeneral (target : List Char) : Locator :=
  let address := straighten target
  let start := address.takeWhile fun c => !isEnd c
  let slashes := (address.takeWhile (· = '/')).length
  if !address.contains '#' && !start.contains '@' && (slashes = 1 || slashes = 2) then
    split address
  else
    let scheme := scheme address
    let kind := (String.ofList scheme).toLower
    let rest := address.drop scheme.length
    if kind = program then split (rest.takeWhile (· != '#'))
    else
      let (hasHost, rest) :=
        match rest with
        | '/' :: '/' :: named =>
          if !scheme.isEmpty || namesUser rest then dropHost named else (false, rest)
        | _ => (false, rest)
      let shown := split ((rest.flatMap escape).takeWhile (· != '#'))
      if shown.path.isEmpty && hasHost && rooted.contains kind then { shown with path := ['/'] }
      else shown

def read (target : List Char) : Locator :=
  if target.head? == some '/' && !target.contains '#' then split target else readGeneral target

/-- The scheme and the host in front of a target that is a whole address. -/
def origin (target : List Char) : List Char :=
  let start := target.takeWhile (· != '?')
  match target.head?, (start.dropWhile (· != ':')) with
  | some '/', _ => []
  | _, ':' :: '/' :: '/' :: _ =>
    let front := start.takeWhile (· != ':') ++ "://".toList
    let behind := target.drop front.length
    if behind.contains '/' then front ++ behind.takeWhile (· != '/') else []
  | _, _ => []

/-- Reads what is left of a target when the given number of characters of its path is taken off. -/
def below (target : List Char) (taken : Nat) : Locator :=
  let origin := origin target
  let rest := target.drop (origin.length + taken)
  read (if origin.isEmpty && rest.head? != some '/' then '/' :: rest else origin ++ rest)

end Locator

end SavingsCircle.Http
