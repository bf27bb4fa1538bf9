import ClassAtlas.Source.Escape
import ClassAtlas.Source.Grammar

/-!
# String literals

Neighbouring literals make one text. In a formatted literal an expression stands in braces, perhaps
followed by an equals sign (which repeats its text), by a conversion behind an exclamation mark, and
by a format behind a colon; a format may hold expressions in braces, but no format of those. Doubled
braces stand for themselves. An expression in braces holds no backslash and no comment.
-/

namespace ClassAtlas.Source

/-- Part of a text: characters, or an expression. -/
inductive TextPart where
  | chars (cs : List Char)
  | value (e : Expr)

namespace FormattedText

/-! ## Characters up to a brace -/

/-- A run of characters as it stands in the literal. -/
structure Run where
  chars : List Char
  /-- Did a doubled brace end the run? -/
  doubled : Bool
  rest : List Char

/-- Ends a run at a brace. In a format, braces are not doubled; elsewhere a closing brace is. -/
def stopAtBrace (inFormat : Bool) (reversed : List Char) (brace : Char) (rest : List Char) :
    Option Run :=
  if inFormat then some ⟨reversed.reverse, false, brace :: rest⟩
  else if rest.head? == some brace then some ⟨(brace :: reversed).reverse, true, rest.drop 1⟩
  else if brace == '\x7d' then none
  else some ⟨reversed.reverse, false, brace :: rest⟩

/-- Is the character a brace? -/
def isBrace (c : Char) : Bool :=
  c == '\x7b' || c == '\x7d'

/-- Takes characters up to a brace. A backslash takes the next character along, unless that is a
brace; the name of a character in braces is taken along whole. The first argument bounds the number
of steps. -/
def takeRun (isRaw inFormat : Bool) : Nat → List Char → List Char → Option Run
  | 0, reversed, rest => some ⟨reversed.reverse, false, rest⟩
  | _, reversed, [] => some ⟨reversed.reverse, false, []⟩
  | fuel + 1, reversed, c :: rest =>
    if !isRaw && c == '\\' then
      match rest with
      | [] => some ⟨(c :: reversed).reverse, false, []⟩
      | 'N' :: '\x7b' :: more =>
        let label := more.takeWhile (· != '\x7d')
        let tail := more.drop label.length
        takeRun isRaw inFormat fuel
          ((tail.take 1).reverse ++ label.reverse ++ '\x7b' :: 'N' :: c :: reversed) (tail.drop 1)
      | d :: more =>
        if isBrace d then stopAtBrace inFormat (c :: reversed) d more
        else takeRun isRaw inFormat fuel (d :: c :: reversed) more
    else if isBrace c then stopAtBrace inFormat reversed c rest
    else takeRun isRaw inFormat fuel (c :: reversed) rest

/-! ## The text of an expression -/

/-- Where the scan of an expression stands: inside of a string or not, and in which brackets. -/
structure Scan where
  quote : Option (Char × Bool)
  opened : List Char

/-- Do the brackets belong together? -/
def isPair (opening closing : Char) : Bool :=
  (opening == '(' && closing == ')') || (opening == '[' && closing == ']')
    || (opening == '\x7b' && closing == '\x7d')

/-- Takes the text of an expression up to the character that ends it, which stays. The first argument
bounds the number of steps. -/
def takeExpression : Nat → Scan → List Char → List Char → Option (List Char × List Char)
  | 0, _, _, _ => none
  | _, _, _, [] => none
  | fuel + 1, st, reversed, c :: rest =>
    if c == '\\' then none
    else match st.quote with
    | some (q, isLong) =>
      if c == q && isLong then
        match rest with
        | d :: e :: more =>
          if d == q && e == q then
            takeExpression fuel { st with quote := none } (e :: d :: c :: reversed) more
          else takeExpression fuel st (c :: reversed) rest
        | _ => takeExpression fuel st (c :: reversed) rest
      else if c == q then takeExpression fuel { st with quote := none } (c :: reversed) rest
      else takeExpression fuel st (c :: reversed) rest
    | none =>
      if c == '\'' || c == '"' then
        match rest with
        | d :: e :: more =>
          if d == c && e == c then
            takeExpression fuel { st with quote := some (c, true) } (e :: d :: c :: reversed) more
          else takeExpression fuel { st with quote := some (c, false) } (c :: reversed) rest
        | _ => takeExpression fuel { st with quote := some (c, false) } (c :: reversed) rest
      else if c == '(' || c == '[' || c == '\x7b' then
        if maxBrackets ≤ st.opened.length then none
        else takeExpression fuel { st with opened := c :: st.opened } (c :: reversed) rest
      else if c == '#' then none
      else if st.opened.isEmpty && (c == '!' || c == ':' || c == '\x7d' || c == '='
          || c == '<' || c == '>') then
        if (c == '!' || c == '=' || c == '<' || c == '>') && rest.head? == some '=' then
          takeExpression fuel st ('=' :: c :: reversed) (rest.drop 1)
        else if c == '<' || c == '>' then takeExpression fuel st (c :: reversed) rest
        else some (reversed.reverse, c :: rest)
      else if c == ')' || c == ']' || c == '\x7d' then
        match st.opened with
        | top :: below =>
          if isPair top c then takeExpression fuel { st with opened := below } (c :: reversed) rest
          else none
        | [] => none
      else takeExpression fuel st (c :: reversed) rest

/-- Is the character a blank of any kind? -/
def isSpace (c : Char) : Bool :=
  c == ' ' || (9 ≤ c.toNat && c.toNat ≤ 13)

/-- Reads an expression that is not empty. -/
def readExpression (g : Grammar) (text : List Char) : Option Expr :=
  if text.all (fun c => isBlank c || c == '\n') then none else g.embedded text

/-- The conversion at the head of a text, if an exclamation mark announces one. -/
def takeConversion (cs : List Char) : Option (Option Char × List Char) :=
  match cs with
  | '!' :: c :: rest => if c == 's' || c == 'r' || c == 'a' then some (some c, rest) else none
  | ['!'] => none
  | cs => some (none, cs)

/-! ## Parts -/

/-- Adds characters to reversed parts. -/
def pushChars (cs : List Char) (reversed : List TextPart) : List TextPart :=
  match cs, reversed with
  | [], parts => parts
  | cs, .chars before :: parts => .chars (before ++ cs) :: parts
  | cs, parts => .chars cs :: parts

/-- The constants and values that parts stand for. -/
def partsToExprs (parts : List TextPart) : List Expr :=
  parts.map fun
    | .chars cs => .constant (.text (String.ofList cs) false)
    | .value e => e

/-- The format behind a colon: `readFormat` reads its parts and what follows them. -/
def takeFormat (readFormat : List Char → Option (List TextPart × List Char)) (cs : List Char) :
    Option (Option Expr × List Char) :=
  match cs with
  | [':'] => none
  | ':' :: rest => (readFormat rest).map fun (parts, after) => (some (.joined (partsToExprs parts)), after)
  | cs => some (none, cs)

/-- One expression in braces, behind the opening brace: the characters that stand in front of it (its
own text, if an equals sign follows it), its value, and what follows. -/
def takeValue (g : Grammar) (readFormat : List Char → Option (List TextPart × List Char))
    (cs : List Char) : Option (List Char × Expr × List Char) := do
  let (text, rest) ← takeExpression (cs.length + 1) ⟨none, []⟩ [] cs
  let value ← readExpression g text
  let repeated := rest.head? == some '='
  let blanks := if repeated then (rest.drop 1).takeWhile isSpace else []
  let shown := if repeated then text ++ '=' :: blanks else []
  let rest := if repeated then rest.drop (1 + blanks.length) else rest
  let (conversion, rest) ← takeConversion rest
  let (format, rest) ← takeFormat readFormat rest
  match rest with
  | '\x7d' :: after =>
    let conversion := match conversion with
      | some c => some c
      | none => if repeated && format.isNone then some 'r' else none
    return (shown, .formatted value conversion format, after)
  | _ => none

/-- The parts of a formatted text, in reverse, and what follows them: nothing, or in a format its
closing brace. `levels` says how deep expressions may still nest, `fuel` bounds the number of parts. -/
def takeParts (g : Grammar) (isRaw inFormat : Bool) :
    (levels fuel : Nat) → List TextPart → List Char → Option (List TextPart × List Char)
  | _, 0, _, _ => none
  | levels, fuel + 1, reversed, cs => do
    let run ← takeRun isRaw inFormat (cs.length + 1) [] cs
    let chars ← if isRaw then some run.chars else Escape.text? run.chars
    let reversed := pushChars chars reversed
    if run.doubled then takeParts g isRaw inFormat levels fuel reversed run.rest
    else match run.rest with
      | '\x7b' :: rest =>
        match levels with
        | 0 => none
        | levels + 1 =>
          let readFormat := fun cs =>
            (takeParts g isRaw true levels fuel [] cs).map fun (parts, after) =>
              (parts.reverse, after)
          let (shown, value, after) ← takeValue g readFormat rest
          takeParts g isRaw inFormat (levels + 1) fuel (.value value :: pushChars shown reversed) after
      | rest => some (reversed, rest)
termination_by levels fuel => (levels, fuel)

/-- The parts of one literal, added to reversed parts. -/
def literalParts (g : Grammar) (reversed : List TextPart) (s : StringToken) :
    Option (List TextPart) := do
  if s.isFormatted then
    let (reversed, rest) ← takeParts g s.isRaw false 2 (s.body.length + 2) reversed s.body
    if rest.isEmpty then some reversed else none
  else
    let chars ← if s.isRaw then some s.body else Escape.text? s.body
    return pushChars chars reversed

/-- The bytes of one literal, which is in ASCII. -/
def literalBytes (s : StringToken) : Option (List Nat) :=
  if s.body.any (fun c => 0x80 ≤ c.toNat) then none
  else if s.isRaw then some (s.body.map Char.toNat)
  else Escape.bytes? s.body

/-- The expression that neighbouring literals make. Bytes and text do not mix. -/
def concat (g : Grammar) (literals : List StringToken) : Option Expr := do
  if literals.all (·.isBytes) then
    let bytes ← literals.mapM literalBytes
    return .constant (.bytes bytes.flatten)
  else if literals.any (·.isBytes) then none
  else
    let reversed ← literals.foldlM (literalParts g) []
    if literals.any (·.isFormatted) then return .joined (partsToExprs reversed.reverse)
    else
      let chars := reversed.reverse.flatMap fun
        | .chars cs => cs
        | .value _ => []
      return .constant (.text (String.ofList chars) ((literals.head?.map (·.isMarked)).getD false))

end FormattedText

end ClassAtlas.Source
