import Stencil.Template.Method
import Stencil.Text.Wrap

/-!
# Filters for texts

## Main definitions

- `Filter.parameters` — how filters take their arguments
- `Filter.ofText?` — the filters that make a text of their subject

## Design notes

Filters are written in terms of the operators and methods of values, so that a subject or an argument
of another kind is refused by the operation that meets it first.
-/

namespace Stencil

namespace Template

open Exec

namespace Filter

/-- The parameters of a filter behind those that are supplied unseen. -/
def parameters (function : String) (hidden : List String)
    (formals : List (String × Option Value)) : Parameters :=
  { function, hidden := hidden.map Text.ofString,
    formals := formals.map fun (n, d) => (Text.ofString n, d) }

/-- Whether text is escaped where the filter runs. -/
def escaping : Exec Bool := do
  truth (← machine).autoescape

/-- A value as a text; a text stays what it is. -/
def soft (v : Value) : Exec Value := do
  match v with
  | .str .. | .safe .. => pure v
  | v => do pure (.str (← text v))

/-- Call the method of a name of a value, with arguments by position. -/
def invoke (E : Engine) (v : Value) (name : Text) (args : List Value) : Exec Value := do
  E.call (← Braces.attributeOf v name) { positional := args }

/-- Call a method of the text of a value. -/
def softly (E : Engine) (name : Text) (v : Value) (args : List Value) : Exec Value := do
  callMethod E (← soft v) name { positional := args }

/-- Whether a value is HTML already. -/
def isSafe (v : Value) : Bool :=
  match v with
  | .safe .. => true
  | _ => false

/-- A character between the words of a title. -/
def separatesWords (c : CodePoint) : Bool :=
  isSpace c || [45, 40, 123, 91, 60].contains c

/-- Every word with a capital, all other letters small. -/
def titled (t : Text) : Text :=
  go (t.length + 1) t
where
  go : Nat → Text → Text
  | 0, _ => []
  | _, [] => []
  | fuel + 1, c :: rest =>
    if separatesWords c then c :: go fuel rest
    else
      let tail := rest.takeWhile fun c => !separatesWords c
      Text.upper [c] ++ Text.lower tail ++ go fuel (rest.drop tail.length)

def wordCount (t : Text) : Nat :=
  go false t
where
  go (inWord : Bool) : Text → Nat
  | [] => 0
  | c :: rest =>
    if isWordCharacter c then (if inWord then 0 else 1) + go true rest else go false rest

/-- A character that cannot be in the name of an attribute. -/
def endsAttributeName (c : CodePoint) : Bool :=
  (9 ≤ c && c ≤ 13) || c == 32 || c == 47 || c == 62 || c == 61

/-- A value of two parts as a pair. -/
def pairOf (E : Engine) (v : Value) : Exec (Value × Value) := do
  match ← unpack E 2 v with
  | [k, x] => pure (k, x)
  | _ => pure (.none, .none)

/-- The entries of a dictionary. -/
def entries? (v : Value) : Exec (Option (List (Value × Value))) := do
  match v with
  | .ref id => match ← fetch id with
    | .dict es => pure (some es.toList)
    | _ => pure none
  | _ => pure none

/-- The entries of a value that has items like a dictionary. -/
def itemsOf (E : Engine) (v : Value) : Exec (List (Value × Value)) := do
  match ← entries? v with
  | some es => pure es
  | none => forEach (← collect E (← invoke E v "items" [])) (pairOf E)

/-- Whether an attribute has no value. -/
def isAbsent : Value → Bool
  | .none | .undefined .. => true
  | _ => false

/-- An attribute of an HTML element; none if it has no value. -/
def attributePart (k x : Value) : Exec (Option Text) := do
  if isAbsent x then pure none
  else match k.asText? with
    | none => match k with
      | .bytes .. => typeError "cannot use a string pattern on a bytes-like object"
      | k => do
        typeError ("expected string or bytes-like object, got '" ++ (← typeName k) ++ "'")
    | some name =>
      if name.any endsAttributeName then
        fail .badValue ("Invalid character in attribute name: " ++ (← quoted k))
      else do
        pure (some ((← SafeMethod.escaped k) ++ "=\"" ++ (← SafeMethod.escaped x) ++ "\""))

/-- Attributes of an HTML element; those without a value are left out. -/
def attributes (E : Engine) (v spaced : Value) : Exec Value := do
  let parts ← forEach (← itemsOf E v) fun (k, x) => attributePart k x
  let joined := Text.join " " (parts.filterMap id)
  let joined := if (← truth spaced) && !joined.isEmpty then 32 :: joined else joined
  pure (SafeMethod.made (← escaping) joined)

/-- Whether an order operator holds. -/
def ordered (op : CompareOp) (a b : Value) : Exec Bool :=
  onHeap fun h => Value.order h op a b

/-- Whether an argument is left open. -/
def isNone : Value → Bool
  | .none => true
  | _ => false

/-- An argument, or what stands for one that is left open. -/
def orElse (v default : Value) : Value :=
  if isNone v then default else v

/-- An operator as filters use it. -/
def compute (E : Engine) (op : BinaryOp) (a b : Value) : Exec Value :=
  binaryBy (opSymbol op) (collect E) op a b

/-- The beginning of a text with an end mark, unless the text is hardly longer. -/
def truncated (E : Engine) (v length killWords mark leeway : Value) : Exec Value := do
  let leeway := orElse leeway (.int 5)
  let markLength ← lengthOf mark
  if !(← ordered .ge length (.int markLength)) then
    fail .assertion ("expected length >= " ++ Text.ofNat markLength ++ ", got " ++ (← text length))
  else if !(← ordered .ge leeway (.int 0)) then
    fail .assertion ("expected leeway >= 0, got " ++ (← text leeway))
  else
    let n ← lengthOf v
    if ← ordered .le (.int n) (← compute E .add length leeway) then pure v
    else
      let cut ← subscriptSlice v .none (← compute E .sub length (.int markLength)) .none
      if ← truth killWords then compute E .add cut mark
      else
        let words ← invoke E cut "rsplit" [.str " ", .int 1]
        compute E .add (← subscript words (.int 0)) mark

/-- The blanks or the text in front of a line, which are safe if the line is. -/
def indention (E : Engine) (width : Value) (safe : Bool) : Exec Value := do
  let blanks ← if width.asText?.isSome then pure width else compute E .mul (.str " ") width
  if safe then do pure (.safe (← text blanks)) else pure blanks

/-- A text with a line break behind it; a list takes the line break in. -/
def ended (E : Engine) (v newline : Value) : Exec Value := do
  match v with
  | .ref id => match ← fetch id with
    | .list items => do
      let more ← keep (.str "\n")
      store id (.list (items.push more))
      pure v
    | _ => binaryBy "+=" (collect E) .add v newline
  | v => binaryBy "+=" (collect E) .add v newline

/-- Lines with an indention in front of all but the first one. Blank lines do not get one unless
`blank` counts as true. -/
def joinIndented (E : Engine) (newline indention blank : Value) (lines : List Value) : Exec Value := do
  if ← truth blank then
    let separator ← compute E .add newline indention
    invoke E separator "join" [← newList lines]
  else match lines with
    | [] => fail .badIndex "pop from empty list"
    | head :: rest => do
      if rest.isEmpty then pure head
      else
        let others ← forEach rest fun line => do
          if ← truth line then compute E .add indention line else pure line
        let others ← invoke E newline "join" [← newList others]
        compute E .add head (← compute E .add newline others)

/-- Blanks or a text in front of the lines of a text. -/
def indented (E : Engine) (v width first blank : Value) : Exec Value := do
  let indention ← indention E width (isSafe v)
  let newline : Value := SafeMethod.made (isSafe v) "\n"
  let ended ← ended E v newline
  let lines ← collect E (← invoke E ended "splitlines" [])
  let result ← joinIndented E newline indention blank lines
  if ← truth first then compute E .add indention result else pure result

/-- Texts joined by a method of their separator. -/
def joinedBy (E : Engine) (join : Value) (parts : List Value) : Exec Value := do
  E.call join { positional := [← newList parts] }

/-- Whether a value is the truth value that holds. -/
def isTrue : Value → Bool
  | .bool b => b
  | _ => false

/-- A line of a text wrapped to a width. -/
def wrappedLine (E : Engine) (join width breaksWords atHyphens line : Value) : Exec Value := do
  match line.asText? with
  | none => typeError "cannot use a string pattern on a bytes-like object"
  | some t =>
    if ← ordered .le width (.int 0) then
      fail .badValue ("invalid width " ++ (← quoted width) ++ " (must be > 0)")
    else
      let breaks ← truth breaksWords
      let (limit, whole) : Int × Bool := match width.number? with
        | some (.inl i) => (i, true)
        | some (.inr x) => ((Binary64.floor? x).getD (t.length + 1), false)
        | none => (0, true)
      let style : Wrap.Style := { width := limit, isWhole := whole, breaksWords := breaks,
                                  atHyphens := ← truth atHyphens }
      match Wrap.wrap? style (isTrue atHyphens) t with
      | some parts => joinedBy E join (parts.map fun p => .str p)
      | none => typeError "slice indices must be integers or None or have an __index__ method"

/-- The lines of a text wrapped to a width. -/
def wrapped (E : Engine) (v width breaksWords separator atHyphens : Value) : Exec Value := do
  let join ← Braces.attributeOf (orElse separator (.str "\n")) "join"
  let lines ← collect E (← invoke E v "splitlines" [])
  let paragraphs ← forEach lines (wrappedLine E join width breaksWords atHyphens)
  joinedBy E join paragraphs

/-- Replace parts of a text. Where text is escaped, the parts are escaped as far as safe texts meet
unsafe ones. -/
def replaced (E : Engine) (v old new count : Value) : Exec Value := do
  let count := orElse count (.int (-1))
  if ← escaping then
    let subject ← if isSafe old || (isSafe new && !isSafe v) then SafeMethod.escapedValue v else soft v
    let old ← soft old
    callMethod E subject "replace" { positional := [old, ← soft new, count] }
  else
    let subject ← text v
    let old ← text old
    callMethod E (.str subject) "replace" { positional := [.str old, .str (← text new), count] }

/-- Fill the fields of a format with the arguments of a filter. -/
def formatted (v : Value) (args : CallArgs) : Exec Value := do
  match args.positional, args.keywords with
  | _ :: _, _ :: _ =>
    fail .filterArgument "can't handle positional and keyword arguments at the same time"
  | items, [] => do fillIn (← soft v) (← newTuple items)
  | [], keywords => do
    let v ← soft v
    fillIn v (← newDict (keywords.map fun (k, x) => (.str k, x)))
where
  fillIn (v arg : Value) : Exec Value := match v with
    | .safe t _ => printf true t arg
    | v => printf false (v.asText?.getD []) arg

/-- The filters that make a text of their subject; `args` are their arguments. -/
def ofText? (E : Engine) (name : String) (v : Value) (args : CallArgs) : Option (Exec Value) :=
  let plain (function parameter : String) (run : Exec Value) : Option (Exec Value) := some do
    discard (args.bind (parameters function [parameter] []))
    run
  let leading (function : String) (run : Exec Value) : Option (Exec Value) := some do
    discard (args.bind { parameters function ["s"] [] with leading := 1 })
    run
  match name with
  | "upper" => plain "do_upper" "s" (softly E "upper" v [])
  | "lower" => plain "do_lower" "s" (softly E "lower" v [])
  | "capitalize" => plain "do_capitalize" "s" (softly E "capitalize" v [])
  | "title" => plain "do_title" "s" do pure (.str (titled (← text v)))
  | "wordcount" => plain "do_wordcount" "s" do pure (.int (wordCount (← text v)))
  | "striptags" => plain "do_striptags" "value" do
    pure (.str (← SafeMethod.resolved (Markup.withoutTags (← text v))))
  | "string" => leading "soft_str" (soft v)
  | "safe" => plain "do_mark_safe" "value" do pure (.safe (← text v))
  | "forceescape" => plain "do_forceescape" "value" do pure (.safe (Markup.escape (← text v)))
  | "escape" | "e" => leading "escape" (SafeMethod.escapedValue v)
  | "center" => some do
    softly E "center" v (← args.bind (parameters "do_center" ["value"] [("width", some (.int 80))]))
  | "trim" => some do
    softly E "strip" v (← args.bind (parameters "do_trim" ["value"] [("chars", some .none)]))
  | "truncate" => some do
    match ← args.bind (parameters "do_truncate" ["env", "s"] [("length", some (.int 255)),
      ("killwords", some (.bool false)), ("end", some (.str "...")), ("leeway", some .none)]) with
    | [length, killWords, mark, leeway] => truncated E v length killWords mark leeway
    | _ => pure v
  | "indent" => some do
    match ← args.bind (parameters "do_indent" ["s"] [("width", some (.int 4)),
      ("first", some (.bool false)), ("blank", some (.bool false))]) with
    | [width, first, blank] => indented E v width first blank
    | _ => pure v
  | "wordwrap" => some do
    match ← args.bind (parameters "do_wordwrap" ["environment", "s"] [("width", some (.int 79)),
      ("break_long_words", some (.bool true)), ("wrapstring", some .none),
      ("break_on_hyphens", some (.bool true))]) with
    | [width, breaks, separator, hyphens] => wrapped E v width breaks separator hyphens
    | _ => pure v
  | "replace" => some do
    match ← args.bind (parameters "do_replace" ["eval_ctx", "s"] [("old", none), ("new", none),
      ("count", some .none)]) with
    | [old, new, count] => replaced E v old new count
    | _ => pure v
  | "xmlattr" => some do
    let values ← args.bind (parameters "do_xmlattr" ["eval_ctx", "d"]
      [("autospace", some (.bool true))])
    attributes E v (values.headD .none)
  | "format" => some do
    if (args.keywords.lookup ("value" : Text)).isSome then
      typeError "do_format() got multiple values for argument 'value'"
    else formatted v args
  | _ => none

end Filter

end Template

end Stencil
