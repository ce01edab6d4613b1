import Stencil.Text.Letters
import Stencil.Text.Markup

/-!
# Links in text

Words of a text that look like an address of a page or of mail become links.

## Main definitions

- `Link.isPage`, `Link.isMail` — what counts as an address
- `Link.inText` — a text with links
-/

namespace Stencil

namespace Link

/-- How links are made up. -/
structure Style where
  /-- What is left of a long text of a link. -/
  trim : Text → Text
  /-- The attributes of links to pages. -/
  attributes : Text
  /-- Further schemes. -/
  schemes : List Text

/-- Letters compare equal in both cases. -/
def small (t : Text) : Text :=
  t.map fun c => if 65 ≤ c && c ≤ 90 then c + 32 else c

/-- A letter, also the two signs that are letters in another case. -/
def isLatin (c : CodePoint) : Bool :=
  isAsciiLetter c || c == 0x17F || c == 0x212A || c == 0x130 || c == 0x131

def isHostCharacter (c : CodePoint) : Bool :=
  isWordCharacter c || c == 37 || c == 45

/-- All splits of a text behind a beginning whose characters meet a condition, of a length between
bounds. -/
def runs (p : CodePoint → Bool) (least most : Nat) (t : Text) : List Text :=
  let n := min most (t.takeWhile p).length
  ((List.range (n + 1)).reverse.filter (least ≤ ·)).map fun k => t.drop k

/-- What follows the labels of a host, each with a point behind it. -/
def labels (least most : Nat) : Nat → Text → List Text
  | 0, _ => []
  | fuel + 1, t =>
    let n := (t.takeWhile isHostCharacter).length
    match t.drop n with
    | 46 :: rest =>
      if least ≤ n ∧ n ≤ most then rest :: labels least most fuel rest else []
    | _ => []

/-- A port, a path, and the end. -/
def endsAddress (t : Text) : Bool :=
  let afterPort : List Text := match t with
    | 58 :: rest => t :: runs (fun c => (decimalValue? c).isSome) 1 5 rest
    | _ => [t]
  let ends (t : Text) : Bool := t.isEmpty || t == [10]
  afterPort.any fun t => ends t || match t with
    | c :: rest =>
      [47, 63, 35].contains c && (let after := rest.dropWhile fun c => !isSpace c; ends after)
    | [] => false

def isDigits (t : Text) : Bool :=
  1 ≤ t.length && t.length ≤ 3 && t.all fun c => (decimalValue? c).isSome

/-- What follows an address of four numbers. -/
def numbers (t : Text) : List Text :=
  let digits := runs (fun c => (decimalValue? c).isSome) 1 3
  let more (ts : List Text) : List Text := ts.flatMap fun t => match t with
    | 46 :: rest => digits rest
    | _ => []
  more (more (more (digits t)))

def isHexadecimal (c : CodePoint) : Bool :=
  (decimalValue? c).isSome || (97 ≤ c && c ≤ 102) || (65 ≤ c && c ≤ 70)

/-- What follows an address of groups of hexadecimal digits between brackets. -/
def groups (t : Text) : List Text :=
  let part (ts : List Text) : List Text := ts.flatMap (runs isHexadecimal 0 4)
  let colon (ts : List Text) : List Text := ts.filterMap fun t => match t with
    | 58 :: rest => some rest
    | _ => none
  let optional (ts : List Text) : List Text := ts ++ colon ts
  let closed (ts : List Text) : List Text := ts.filterMap fun t => match t with
    | 93 :: rest => some rest
    | _ => none
  match t with
  | 91 :: rest =>
    let head := colon (part (colon (part [rest])))
    let step (ts : List Text) : List Text := (optional (part ts)).eraseDups
    let all := (List.range 6).foldl (fun (found, ts) _ =>
      let ts := step ts
      (found ++ ts, ts)) (([] : List Text), head)
    closed all.1.eraseDups
  | _ => []

/-- What follows a domain at the top. -/
def topDomains (t : Text) : List Text :=
  runs isLatin 2 63 t ++
    (if Text.startsWith (small t) "xn--" then
      runs (fun c => isWordCharacter c || c == 37) 2 59 (t.drop 4) else [])

def commonDomains : List Text := ["com", "net", "int", "edu", "gov", "org", "info", "mil"]

/-- Whether a word is the address of a page. -/
def isPage (t : Text) : Bool :=
  let lower := small t
  let schemes : List Text := ["https://", "http://"]
  let behind (p : Text) : List Text := if Text.startsWith lower p then [t.drop p.length] else []
  let schemed := schemes.flatMap behind
  let hosts := schemed ++ behind "www."
  let fuel := t.length + 1
  let named := hosts.flatMap fun t =>
    (labels 1 fuel fuel t ++ [t]).flatMap topDomains
  let plain := (labels 2 63 fuel t).flatMap fun t =>
    commonDomains.filterMap fun d =>
      if Text.startsWith (small t) d then some (t.drop d.length) else none
  let numeric := schemed.flatMap fun t => numbers t ++ groups t
  (named ++ plain ++ numeric).any endsAddress

/-- Whether a word is an address of mail. -/
def isMail (t : Text) : Bool :=
  let t := match t.reverse with
    | 10 :: rest => rest.reverse
    | _ => t
  if t.any isSpace then false
  else (List.range t.length).any fun n =>
    0 < n && t[n]? == some 64 && (
      let host := t.drop (n + 1)
      (match host with | c :: _ => isWordCharacter c | [] => false) &&
        match Text.cutLast? "." host with
        | some (name, last) =>
          name.all (fun c => isWordCharacter c || c == 46 || c == 45) && !name.isEmpty &&
            !last.isEmpty && last.all isWordCharacter
        | none => false)

/-- The brackets at the head of a word, and the word behind them. -/
def opening : Nat → Text → Text × Text
  | 0, t => ([], t)
  | fuel + 1, t =>
    let n := if Text.startsWith t "&lt;" then 4 else match t with
      | 40 :: _ | 60 :: _ => 1
      | _ => 0
    if n = 0 then ([], t)
    else
      let (head, rest) := opening fuel (t.drop n)
      (t.take n ++ head, rest)

/-- A word without brackets and punctuation at its end, and these. -/
def closing : Nat → Text → Text → Text × Text
  | 0, t, tail => (t, tail)
  | fuel + 1, t, tail =>
    let n := if Text.endsWith t "&gt;" then 4 else match t.reverse with
      | c :: _ => if [41, 62, 46, 44, 10].contains c then 1 else 0
      | [] => 0
    if n = 0 then (t, tail)
    else closing fuel (t.take (t.length - n)) (t.drop (t.length - n) ++ tail)

/-- Give closing brackets back to a word that has opened them. -/
def balanced (start stop : Text) (middle tail : Text) : Text × Text :=
  let opened := Text.occurrences start middle
  if opened ≤ Text.occurrences stop middle then (middle, tail)
  else
    (List.range (min opened (Text.occurrences stop tail))).foldl (fun (middle, tail) _ =>
      match Text.position? stop tail with
      | some n => (middle ++ tail.take (n + stop.length), tail.drop (n + stop.length))
      | none => (middle, tail)) (middle, tail)

/-- The element of a link. -/
def element (href attributes content : Text) : Text :=
  "<a href=\"" ++ href ++ "\"" ++ attributes ++ ">" ++ content ++ "</a>"

/-- A word as a link, if it is an address. -/
def linked (s : Style) (word : Text) : Text :=
  if isPage word then
    let href : Text :=
      if Text.startsWith word "https://" || Text.startsWith word "http://" then word
      else "https://" ++ word
    element href s.attributes (s.trim word)
  else if Text.startsWith word "mailto:" && isMail (word.drop 7) then
    element word [] (word.drop 7)
  else if word.contains 64 && !Text.startsWith word "www." && !word.contains 58 && isMail word then
    element ("mailto:" ++ word) [] word
  else
    s.schemes.foldl (fun word scheme =>
      if word != scheme && Text.startsWith word scheme then element word s.attributes word
      else word) word

/-- A word with its brackets and punctuation around the link. -/
def inWord (s : Style) (word : Text) : Text :=
  let (head, middle) := opening word.length word
  let (middle, tail) := closing middle.length middle []
  let (middle, tail) := balanced "(" ")" middle tail
  let (middle, tail) := balanced "<" ">" middle tail
  let (middle, tail) := balanced "&lt;" "&gt;" middle tail
  head ++ linked s middle ++ tail

/-- An escaped text with links. -/
def inText (s : Style) (t : Text) : Text :=
  go (t.length + 1) t
where
  go : Nat → Text → Text
  | 0, _ => []
  | _, [] => []
  | fuel + 1, t@(c :: _) =>
    let part := t.takeWhile fun d => isSpace d == isSpace c
    (if isSpace c then part else inWord s part) ++ go fuel (t.drop part.length)

end Link

end Stencil
