import Provision.Plan.Basic
import Provision.Text.Fields
import Provision.Text.Utf8

namespace Provision

/-!
# Addresses on one server

What follows the name of a server in the text of an address is brought into a normal form: segments
that only lead elsewhere are followed, characters that may not stand in an address are written in
hexadecimal, and the part that only the reader sees is dropped.
-/

/-- A place on a server in normal form: the segments of its path, and the query if there is one. -/
structure Address where
  segments : List (List Char)
  query? : Option (List Char) := none
  deriving Repr, DecidableEq

namespace Address

/-! ## Single characters -/

/-- A digit of base sixteen. -/
def hexDigit (value : Nat) : Char :=
  ((Nat.toDigits 16 value).headD '0').toUpper

/-- The bytes of a character in hexadecimal, each after a percent sign. -/
def escape (c : Char) : List Char :=
  (Text.Utf8.encodeChar c).flatMap fun byte =>
    ['%', hexDigit (byte.toNat / 16), hexDigit (byte.toNat % 16)]

/-- Whether a character stands for itself in every part of an address. -/
def isPlain (c : Char) : Bool :=
  ' ' < c && c ≤ '~' && c ∉ ['"', '<', '>', '#']

/-- A character as it stands in a path. -/
def pathChar (c : Char) : List Char :=
  if isPlain c && c ∉ ['\x60', '?', '\x7b', '\x7d'] then [c] else escape c

/-- A character as it stands in a query. -/
def queryChar (c : Char) : List Char :=
  if isPlain c && c ≠ '\'' then [c] else escape c

/-! ## Paths -/

/-- The number of dots that a segment consists of, however they are written. -/
def dots? : List Char → Option Nat
  | [] => some 0
  | '.' :: rest => (dots? rest).map (· + 1)
  | '%' :: '2' :: 'e' :: rest => (dots? rest).map (· + 1)
  | '%' :: '2' :: 'E' :: rest => (dots? rest).map (· + 1)
  | _ => none

/-- Whether a segment stands for the place that it occurs in. -/
def isHere (segment : List Char) : Bool :=
  dots? segment = some 1

/-- Whether a segment stands for the place above. -/
def isUp (segment : List Char) : Bool :=
  dots? segment = some 2

/-- Follow a segment from a place. -/
def step (reached : List (List Char)) (segment : List Char) : List (List Char) :=
  if isUp segment then reached.dropLast
  else if isHere segment then reached
  else reached ++ [segment.flatMap pathChar]

/-- The normal form of the segments of a path; one that leads elsewhere at the end ends open. -/
def normalize (segments : List (List Char)) : List (List Char) :=
  let reached := segments.foldl step []
  if segments.getLast?.any (fun last => isUp last || isHere last) then reached ++ [[]] else reached

/-! ## Texts -/

/-- The text without what never counts in an address: blanks around it, and line ends in it. -/
def clean (text : List Char) : List Char :=
  let isGap := fun (c : Char) => c ≤ ' '
  (((text.dropWhile isGap).reverse.dropWhile isGap).reverse).filter fun c =>
    c ∉ ['\t', '\n', '\r']

/-- The place on a server that the text after its name leads to. -/
def ofRest? (rest : List Char) : Option Address :=
  let shown := rest.takeWhile (· ≠ '#')
  let path := (shown.takeWhile (· ≠ '?')).map fun c => if c = '\\' then '/' else c
  let query? := (Text.cut? '?' shown).map fun (_, query) => query.flatMap queryChar
  match Text.fields '/' path with
  | [] :: segments => some ⟨if segments.isEmpty then [[]] else normalize segments, query?⟩
  | _ => none

/-- The place on the server with a name that the text of an address leads to. -/
def ofText? (server : String) (text : List Char) : Option Address :=
  (Text.after? server.toList (clean text)).bind ofRest?

/-- The text of a path of segments. -/
def pathText (segments : List (List Char)) : List Char :=
  '/' :: Text.join '/' segments

/-- The text of a place as it is sent to the server. -/
def target (address : Address) : List Char :=
  pathText address.segments ++ (address.query?.map fun query => '?' :: query).getD []

/-- Where a text leads that may be relative to a place on the server. -/
def follow? (server : String) (address : Address) (text : List Char) : Option Address :=
  let text := clean text
  let here := server.toList ++ pathText address.segments
  match text with
  | [] => some address
  | '/' :: '/' :: _ => none
  | '/' :: _ => ofText? server (server.toList ++ text)
  | '#' :: _ => some address
  | '?' :: _ => ofText? server (here ++ text)
  | text =>
      if (Text.after? server.toList text).isSome then
        ofText? server text
      else
        ofText? server (server.toList ++ pathText (address.segments.dropLast ++ [text]))

end Address

/-!
# A web of one server

The server answers what its routes say, and counts how often each path is asked for.  An answer may
lead on to another address, which is asked next.  A web that is off line reaches nobody.
-/

/-- An answer of the server to the requests for one path. -/
structure Route where
  status : Nat := 200
  headers : List (String × String) := []
  body : ResponseBody
  deriving DecidableEq

/-- A web of one server. -/
structure Web where
  base : String
  isOnline : Bool
  routes : List (String × Route) := []
  hits : List (String × Nat) := []
  deriving DecidableEq

namespace Web

/-- Let the server answer a path. -/
def addRoute (web : Web) (path : String) (route : Route) : Web :=
  { web with routes := Keyed.put path route web.routes }

/-- Count a request. -/
def count (path : String) : List (String × Nat) → List (String × Nat)
  | [] => [(path, 1)]
  | (other, hits) :: rest =>
      if other = path then (other, hits + 1) :: rest else (other, hits) :: count path rest

/-- The statuses of answers that never have a body. -/
def isBodiless (status : Nat) : Bool :=
  status = 204 || status = 304

/-- The full text of an address on the server. -/
def fullText (web : Web) (address : Address) : String :=
  web.base ++ String.ofList address.target

/-- The answer of the server to a request for an address. -/
def answer (web : Web) (address : Address) : Response :=
  let place := web.fullText address
  match web.routes.lookup (String.ofList address.target) with
  | none => { address := place, status := 404, headers := [], body := .whole [] }
  | some route =>
      { address := place, status := route.status
        headers := route.headers.map fun (name, value) => (name, Text.trimmed value)
        body := if isBodiless route.status then .whole [] else route.body }

/-- The statuses of answers that lead to another address. -/
def leadsOn (status : Nat) : Bool :=
  status ∈ [301, 302, 303, 307, 308]

/-- How many answers there may be to one request, of which all but the last lead on. -/
def maxAnswers : Nat := 5

/--
The answer to a request once no answer leads on, and the web after at most so many answers.  The
address that was asked first is given if answers have led on from it.
-/
def fetchWithin : Nat → Option String → Address → Web → Except String Response × Web
  | 0, _, _, web => (.error "the addresses lead on too often", web)
  | answers + 1, origin?, address, web =>
      let response := { web.answer address with origin? }
      let web := { web with hits := count (String.ofList address.target) web.hits }
      match if leadsOn response.status then response.header? "Location" else none with
      | none => (.ok response, web)
      | some location =>
          match answers, Address.follow? web.base address location.toList with
          | 0, _ => (.error "the addresses lead on too often", web)
          | _, none => (.error "the address is not valid", web)
          | answers, some next =>
              fetchWithin answers (some (origin?.getD response.address)) next web

/-- The answer to a request, and the web after it. -/
def fetch (web : Web) (url : String) : Except String Response × Web :=
  if !web.isOnline then
    (.error "the network is unreachable", web)
  else
    match Address.ofText? web.base url.toList with
    | none => (.error "the address is not valid", web)
    | some address => fetchWithin maxAnswers none address web

end Web

end Provision
