import ClassAtlas.Pattern.Basic
import ClassAtlas.Text.Letter
import ClassAtlas.Text.Identifier
import ClassAtlas.Text.Quote
import ClassAtlas.Text.Numeral

/-!
Reading a pattern text into items. The reader looks one token ahead: a token is a character,
or a backslash with the character after it, so a backslash that ends the text is refused as
soon as the token before it is taken. Each refusal names its place in the text.
-/

namespace ClassAtlas.Pattern

open ClassAtlas.Text

/-- A token of pattern text: one character, or a backslash with the character after it. -/
inductive Token where
  | plain (c : Char)
  | escaped (c : Char)
  deriving DecidableEq, Inhabited

namespace Token

def text : Token → String
  | plain c => String.singleton c
  | escaped c => String.ofList ['\\', c]

def width : Token → Nat
  | plain _ => 1
  | escaped _ => 2

def is (t : Token) (c : Char) : Bool := t == plain c

def isLetter : Token → Bool
  | plain c => ClassAtlas.Text.isLetter c
  | escaped _ => false

end Token

/-- The largest repetition count plus one; counts from it on are refused. -/
def repeatLimit : Nat := 4294967295

/-- The number of capturing groups above which a reference is refused. -/
def groupLimit : Nat := 1073741823

/-- Widths at or beyond this are not told apart. -/
def widthLimit : Nat := Nat.pow 2 64

/-- The state of reading: the text, the position after the look-ahead token, the flags set for
the whole pattern, the width of each group closed so far (`none` while open; entry zero stands
for the whole pattern), group names, the first group of the innermost look-behind being read,
and where each numbered condition first named its group. -/
structure Reader where
  src : Array Char
  index : Nat
  next : Option Token
  flags : Nat
  widths : Array (Option (Nat × Nat))
  names : List (String × Nat)
  lookbehindFrom : Option Nat
  refPositions : List (Nat × Nat)

abbrev ReadM := StateT Reader (Except Fault)

def advance : ReadM Unit := do
  let r ← get
  match r.src[r.index]? with
  | none => set { r with next := none }
  | some '\\' =>
    match r.src[r.index + 1]? with
    | some c => set { r with next := some (.escaped c), index := r.index + 2 }
    | none => throw (.malformed "bad escape (end of pattern)" (some (r.src.size - 1)))
  | some c => set { r with next := some (.plain c), index := r.index + 1 }

def peek : ReadM (Option Token) := return (← get).next

def take : ReadM (Option Token) := do
  let t ← peek
  advance
  return t

/-- Takes the look-ahead token when it is the plain character `c`. -/
def accept (c : Char) : ReadM Bool := do
  if (← peek) == some (.plain c) then
    advance
    return true
  else return false

def tell : ReadM Nat := do
  let r ← get
  return r.index - ((r.next.map Token.width).getD 0)

def seek (i : Nat) : ReadM Unit := do
  modify fun r => { r with index := i }
  advance

/-- Refuses the pattern at `offset` characters before the look-ahead token. -/
def fault {α : Type} (message : String) (offset : Nat) : ReadM α := do
  let t ← tell
  throw (.malformed message (some (t - offset)))

/-- Up to `n` plain characters satisfying `p`. -/
def takeWhileN : Nat → (Char → Bool) → ReadM String
  | 0, _ => return ""
  | n + 1, p => do
    match (← peek) with
    | some (.plain c) =>
      if p c then
        advance
        return String.singleton c ++ (← takeWhileN n p)
      else return ""
    | _ => return ""

def takeDigits : ReadM String := do
  takeWhileN ((← get).src.size + 1) (fun c => '0' ≤ c && c ≤ '9')

/-- The tokens before `terminator`, which is taken too; `what` names the missing thing. -/
def takeUntil (terminator : Char) (what : String) : ReadM String := do
  go ((← get).src.size + 1) ""
where
  go : Nat → String → ReadM String
    | 0, acc => return acc
    | fuel + 1, acc => do
      let t ← take
      match t with
      | none =>
        if acc.isEmpty then fault ("missing " ++ what) 0
        else fault ("missing " ++ String.singleton terminator ++ ", unterminated name") acc.length
      | some t =>
        if t.is terminator then
          if acc.isEmpty then fault ("missing " ++ what) 1 else return acc
        else go fuel (acc ++ t.text)

def checkName (name : String) (offset : Nat) : ReadM Unit := do
  if !isIdentifier name then
    fault ("bad character in group name " ++ quote name) (name.length + offset)

def groupCount : ReadM Nat := return (← get).widths.size

/-- Whether group `g` exists and is closed. -/
def isClosed (g : Nat) : ReadM Bool := do
  match (← get).widths[g]? with
  | some (some _) => return true
  | _ => return false

/-- Inside a look-behind, refuses a reference to an open group or to one opened there. -/
def checkLookbehind (g : Nat) : ReadM Unit := do
  match (← get).lookbehindFrom with
  | none => return
  | some first =>
    if !(← isClosed g) then fault "cannot refer to an open group" 0
    if g ≥ first then fault "cannot refer to group defined in the same lookbehind subpattern" 0

def isHexDigit (c : Char) : Bool :=
  ('0' ≤ c && c ≤ '9') || ('a' ≤ c && c ≤ 'f') || ('A' ≤ c && c ≤ 'F')

def isOctDigit (c : Char) : Bool := '0' ≤ c && c ≤ '7'

def isAsciiLetter (c : Char) : Bool := ('a' ≤ c && c ≤ 'z') || ('A' ≤ c && c ≤ 'Z')

def digitsIn (b : Nat) (s : String) : Nat :=
  s.toList.foldl (fun acc c => acc * b + (if c ≤ '9' then c.toNat - 48 else (c.toNat ||| 32) - 87)) 0

/-- The code point of a control escape such as `\n`. -/
def controlEscape? : Char → Option Nat
  | 'a' => some 7
  | 'f' => some 12
  | 'n' => some 10
  | 'r' => some 13
  | 't' => some 9
  | 'v' => some 11
  | '\\' => some 92
  | _ => none

/-- The class named by an escape letter. -/
def categoryEscape? : Char → Option Category
  | 'd' => some .digit
  | 'D' => some .notDigit
  | 's' => some .space
  | 'S' => some .notSpace
  | 'w' => some .word
  | 'W' => some .notWord
  | _ => none

/-- The code point written by `\x`, `\u`, `\U` or `\N` (the letter given), or `none` for
another letter. -/
def codeEscape (letter : Char) : ReadM (Option Nat) := do
  match letter with
  | 'x' =>
    let digits ← takeWhileN 2 isHexDigit
    if digits.length != 2 then fault ("incomplete escape \\x" ++ digits) (2 + digits.length)
    return some (digitsIn 16 digits)
  | 'u' =>
    let digits ← takeWhileN 4 isHexDigit
    if digits.length != 4 then fault ("incomplete escape \\u" ++ digits) (2 + digits.length)
    return some (digitsIn 16 digits)
  | 'U' =>
    let digits ← takeWhileN 8 isHexDigit
    if digits.length != 8 then fault ("incomplete escape \\U" ++ digits) (2 + digits.length)
    let v := digitsIn 16 digits
    if v > 0x10FFFF then fault ("bad escape \\U" ++ digits) 10
    return some v
  | 'N' =>
    if !(← accept '{') then fault "missing \x7b" 0
    let name ← takeUntil '}' "character name"
    fault ("undefined character name " ++ quote name) (name.length + 4)
  | _ => return none

/-- The member written by an escape inside brackets. -/
def classEscape (c : Char) : ReadM Member := do
  if c = 'b' then return .char 8
  match controlEscape? c with
  | some v => return .char v
  | none =>
  match categoryEscape? c with
  | some k => return .category k
  | none =>
  match (← codeEscape c) with
  | some v => return .char v
  | none =>
  if isOctDigit c then
    let more ← takeWhileN 2 isOctDigit
    let v := digitsIn 8 (String.singleton c ++ more)
    if v > 255 then
      fault ("octal escape value \\" ++ String.singleton c ++ more ++ " outside of range 0-0o377")
        (2 + more.length)
    return .char v
  if c = '8' || c = '9' || isAsciiLetter c then fault ("bad escape \\" ++ String.singleton c) 2
  return .char c.toNat

/-- The item written by an escape outside brackets. -/
def itemEscape (c : Char) : ReadM Item := do
  match c with
  | 'A' => return .anchor .startOfText
  | 'b' => return .anchor .boundary
  | 'B' => return .anchor .nonBoundary
  | 'Z' => return .anchor .endOfText
  | _ =>
  match categoryEscape? c with
  | some k => return .set false [.category k]
  | none =>
  match controlEscape? c with
  | some v => return .char v
  | none =>
  match (← codeEscape c) with
  | some v => return .char v
  | none =>
  if c = '0' then
    let more ← takeWhileN 2 isOctDigit
    return .char (digitsIn 8 ("0" ++ more))
  if '1' ≤ c && c ≤ '9' then
    let second ← match (← peek) with
      | some (.plain d) => if '0' ≤ d && d ≤ '9' then do advance; pure (some d) else pure none
      | _ => pure none
    match second with
    | some d =>
      if isOctDigit c && isOctDigit d then
        match (← peek) with
        | some (.plain e) =>
          if isOctDigit e then
            advance
            let v := digitsIn 8 (String.ofList [c, d, e])
            if v > 255 then
              fault ("octal escape value \\" ++ String.ofList [c, d, e] ++ " outside of range 0-0o377") 4
            return .char v
        | _ => pure ()
    | none => pure ()
    let digits := String.singleton c ++ (match second with | some d => String.singleton d | none => "")
    let g := digitsIn 10 digits
    if g < (← groupCount) then
      if !(← isClosed g) then fault "cannot refer to an open group" (1 + digits.length)
      checkLookbehind g
      return .backref g
    fault ("invalid group reference " ++ toString g) digits.length
  if isAsciiLetter c then fault ("bad escape \\" ++ String.singleton c) 2
  return .char c.toNat

def dedupMembers (ms : List Member) : List Member :=
  ms.foldl (fun acc m => if acc.contains m then acc else acc ++ [m]) []

/-- The members of a bracketed set after its opening bracket (at `here`) and negation. -/
def readMembers (here : Nat) : Nat → List Member → ReadM (List Member)
  | 0, acc => return acc.reverse
  | fuel + 1, acc => do
    let unterminated {α : Type} : ReadM α := throw (.malformed "unterminated character set" (some here))
    match (← take) with
    | none => unterminated
    | some t =>
      if t.is ']' && !acc.isEmpty then return acc.reverse
      let code1 ← match t with
        | .escaped c => classEscape c
        | .plain c => pure (.char c.toNat)
      if ← accept '-' then
        match (← take) with
        | none => unterminated
        | some u =>
          if u.is ']' then return (Member.char 45 :: code1 :: acc).reverse
          let code2 ← match u with
            | .escaped c => classEscape c
            | .plain c => pure (.char c.toNat)
          let bad {α : Type} : ReadM α :=
            fault ("bad character range " ++ t.text ++ "-" ++ u.text) (t.width + 1 + u.width)
          match code1, code2 with
          | .char lo, .char hi => if hi < lo then bad else readMembers here fuel (.range lo hi :: acc)
          | _, _ => bad
      else readMembers here fuel (code1 :: acc)

def readSet : ReadM Item := do
  let here := (← tell) - 1
  let negated ← accept '^'
  let members := dedupMembers (← readMembers here ((← get).src.size + 1) [])
  match members with
  | [.char c] => return if negated then .notChar c else .char c
  | _ => return .set negated members

/-- Inline flags after `(?` and the first flag character: `none` for flags of the whole
pattern (closed by `)`), else the flags turned on and off for a group (closed by `:`). -/
def readFlags (first : Char) : ReadM (Option (Nat × Nat)) := do
  let budget := (← get).src.size + 1
  let rec onFlags : Nat → Nat → Char → ReadM (Nat × Option Token)
    | 0, add, _ => return (add, none)
    | fuel + 1, add, c => do
      let flag := (flagOf? c).getD 0
      if c = 'L' then fault "bad inline flags: cannot use 'L' flag with a str pattern" 0
      let add := add ||| flag
      if flag &&& typeFlags != 0 && add &&& typeFlags != flag then
        fault "bad inline flags: flags 'a', 'u' and 'L' are incompatible" 0
      match (← take) with
      | none => fault "missing -, : or )" 0
      | some t =>
        if t.is ')' || t.is '-' || t.is ':' then return (add, some t)
        match t with
        | .plain d =>
          if (flagOf? d).isSome then onFlags fuel add d
          else fault (if t.isLetter then "unknown flag" else "missing -, : or )") t.width
        | .escaped _ => fault "missing -, : or )" t.width
  let rec offFlags : Nat → Nat → Char → ReadM Nat
    | 0, del, _ => return del
    | fuel + 1, del, c => do
      let flag := (flagOf? c).getD 0
      if flag &&& typeFlags != 0 then fault "bad inline flags: cannot turn off flags 'a', 'u' and 'L'" 0
      let del := del ||| flag
      match (← take) with
      | none => fault "missing :" 0
      | some t =>
        if t.is ':' then return del
        match t with
        | .plain d =>
          if (flagOf? d).isSome then offFlags fuel del d
          else fault (if t.isLetter then "unknown flag" else "missing :") t.width
        | .escaped _ => fault "missing :" t.width
  let (add, stop) ← if first = '-' then pure (0, some (Token.plain '-')) else onFlags budget 0 first
  if stop == some (.plain ')') then
    modify fun r => { r with flags := r.flags ||| add }
    return none
  if add &&& globalFlags != 0 then fault "bad inline flags: cannot turn on global flag" 1
  let del ← if stop == some (.plain '-') then do
      match (← take) with
      | none => fault "missing flag" 0
      | some t =>
        match t with
        | .plain d =>
          if (flagOf? d).isSome then offFlags budget 0 d
          else fault (if t.isLetter then "unknown flag" else "missing flag") t.width
        | .escaped _ => fault "missing flag" t.width
    else pure 0
  if del &&& globalFlags != 0 then fault "bad inline flags: cannot turn off global flag" 1
  if add &&& del != 0 then fault "bad inline flags: flag turned on and off" 1
  return some (add, del)

/-- Ways a run of items can end: at the end of the text, or before `|` or `)`. -/
def atSequenceEnd (t : Option Token) : Bool :=
  match t with
  | none => true
  | some t => t.is '|' || t.is ')'

/-- The width range of items: the fewest and the most characters they can match. -/
def widthOf (gw : Array (Option (Nat × Nat))) : List Item → Nat × Nat
  | [] => (0, 0)
  | it :: rest =>
    let (a, b) := widthOfItem gw it
    let (c, d) := widthOf gw rest
    (min (a + c) widthLimit, min (b + d) widthLimit)
where
  widthOfItem (gw : Array (Option (Nat × Nat))) : Item → Nat × Nat
    | .char _ | .notChar _ | .any | .set _ _ => (1, 1)
    | .anchor _ | .look _ _ _ => (0, 0)
    | .branch alts => widthOfAlts gw alts
    | .loop lo hi _ body =>
      let (i, j) := widthOf gw body
      (min (i * lo) widthLimit,
        match hi with
        | none => if j = 0 then 0 else widthLimit
        | some h => min (j * h) widthLimit)
    | .group _ _ _ body | .atomic body => widthOf gw body
    | .backref g => ((gw[g]?).getD none).getD (0, 0)
    | .ifGroup _ yes no =>
      let (i, j) := widthOf gw yes
      match no with
      | some n => let (l, h) := widthOf gw n; (min i l, max j h)
      | none => (0, j)
  widthOfAlts (gw : Array (Option (Nat × Nat))) : List (List Item) → Nat × Nat
    | [] => (widthLimit, 0)
    | alt :: rest =>
      let (l, h) := widthOf gw alt
      let (i, j) := widthOfAlts gw rest
      (min l i, max h j)

/-- Items with each non-capturing group that changes no flag replaced by its contents. -/
def unpackGroups : List Item → List Item
  | [] => []
  | .group none 0 0 body :: rest => body ++ unpackGroups rest
  | it :: rest => it :: unpackGroups rest

/-- The members of alternatives that are each one character or one non-negated set. -/
def alternativesAsSet : List (List Item) → Option (List Member)
  | [] => some []
  | [.char c] :: rest => (alternativesAsSet rest).map (.char c :: ·)
  | [.set false ms] :: rest => (alternativesAsSet rest).map (ms ++ ·)
  | _ => none

/-- Skips a comment of a verbose pattern up to the end of its line. -/
def skipComment : Nat → ReadM Unit
  | 0 => return
  | fuel + 1 => do
    match (← take) with
    | none => return
    | some t => if t.is '\n' then return else skipComment fuel
def skipGroupComment (start : Nat) : Nat → ReadM Unit
  | 0 => return
  | fuel + 1 => do
    if (← peek).isNone then fault "missing ), unterminated comment" ((← tell) - start)
    match (← take) with
    | some t => if t.is ')' then return else skipGroupComment start fuel
    | none => return
/-- The repetition counts of a quantifier `c` (its position `here` after it), or `none`
when a brace does not begin a count and stands for itself. -/
def readBounds (c : Char) (here : Nat) : ReadM (Option (Nat × Option Nat)) := do
  if c = '?' then return some (0, some 1)
  if c = '*' then return some (0, none)
  if c = '+' then return some (1, none)
  if (← peek) == some (.plain '}') then return none
  let lo ← takeDigits
  let hi ← if ← accept ',' then takeDigits else pure lo
  if !(← accept '}') then
    seek here
    return none
  let min ← if lo.isEmpty then pure 0 else do
    let v := digitsIn 10 lo
    if v ≥ repeatLimit then throw .countTooLarge
    pure v
  if hi.isEmpty then return some (min, none)
  let v := digitsIn 10 hi
  if v ≥ repeatLimit then throw .countTooLarge
  if v < min then fault "min repeat greater than max repeat" ((← tell) - here)
  return some (min, some v)

mutual

/-- Alternatives separated by `|`, up to `)` or the end of the text. -/
def readAlternatives : Nat → Bool → Nat → List (List Item) → ReadM (List Item)
  | 0, _, _, _ => throw (.malformed "pattern too deeply nested" none)
  | fuel + 1, verbose, nested, acc => do
    let item ← readSequence fuel verbose (nested + 1) (nested == 0 && acc.isEmpty) []
    let acc := acc ++ [item]
    if ← accept '|' then
      let flagsNow := (← get).flags
      let verbose := if nested == 0 then hasFlag flagsNow verboseFlag else verbose
      readAlternatives fuel verbose nested acc
    else
      match acc with
      | [one] => return one
      | _ =>
        match alternativesAsSet acc with
        | some ms => return [.set false (dedupMembers ms)]
        | none => return [.branch acc]

/-- A run of items up to `|`, `)` or the end of the text; `acc` holds those read, last first. -/
def readSequence : Nat → Bool → Nat → Bool → List Item → ReadM (List Item)
  | 0, _, _, _, _ => throw (.malformed "pattern too deeply nested" none)
  | fuel + 1, verbose, nested, first, acc => do
    if atSequenceEnd (← peek) then return unpackGroups acc.reverse
    let some this ← take | return unpackGroups acc.reverse
    let continue_ (acc : List Item) := readSequence fuel verbose nested first acc
    match this with
    | .escaped c => continue_ ((← itemEscape c) :: acc)
    | .plain c =>
    if verbose && (c = ' ' || c = '\t' || c = '\n' || c = '\r' || c = '\x0b' || c = '\x0c') then
      continue_ acc
    else if verbose && c = '#' then
      skipComment ((← get).src.size + 1)
      continue_ acc
    else if c = '[' then continue_ ((← readSet) :: acc)
    else if c = '*' || c = '+' || c = '?' || c = '{' then
      let here ← tell
      let bounds ← readBounds c here
      match bounds with
      | none => continue_ (.char c.toNat :: acc)
      | some (lo, hi) =>
        match acc with
        | [] => fault "nothing to repeat" ((← tell) - here + 1)
        | last :: rest =>
          match last with
          | .anchor _ => fault "nothing to repeat" ((← tell) - here + 1)
          | .loop .. => fault "multiple repeat" ((← tell) - here + 1)
          | _ =>
            let body := match last with
              | .group none 0 0 body => body
              | it => [it]
            let isLazy ← accept '?'
            let mode ← if isLazy then pure Repetition.lazy else do
              if ← accept '+' then pure Repetition.possessive else pure Repetition.greedy
            continue_ (.loop lo hi mode body :: rest)
    else if c = '.' then continue_ (.any :: acc)
    else if c = '^' then continue_ (.anchor .start :: acc)
    else if c = '$' then continue_ (.anchor .finish :: acc)
    else if c = '(' then
      let start := (← tell) - 1
      if ← accept '?' then
        match (← take) with
        | none => fault "unexpected end of pattern" 0
        | some kind =>
        match kind with
        | .plain 'P' =>
          if ← accept '<' then
            let name ← takeUntil '>' "group name"
            checkName name 1
            continue_ ((← readGroupBody fuel verbose nested start (some name) false 0 0) :: acc)
          else if ← accept '=' then
            let name ← takeUntil ')' "group name"
            checkName name 1
            match (← get).names.lookup name with
            | none => fault ("unknown group name " ++ quote name) (name.length + 1)
            | some g =>
              if !(← isClosed g) then fault "cannot refer to an open group" (name.length + 1)
              checkLookbehind g
              continue_ (.backref g :: acc)
          else
            match (← take) with
            | none => fault "unexpected end of pattern" 0
            | some t => fault ("unknown extension ?P" ++ t.text) (t.width + 2)
        | .plain ':' =>
          continue_ ((← readGroupBody fuel verbose nested start none false 0 0) :: acc)
        | .plain '#' =>
          skipGroupComment start ((← get).src.size + 1)
          continue_ acc
        | .plain '>' =>
          continue_ ((← readGroupBody fuel verbose nested start none true 0 0) :: acc)
        | .plain '(' =>
          continue_ ((← readCondition fuel verbose nested start) :: acc)
        | .plain k =>
          if k = '=' || k = '!' || k = '<' then
            let (behind, negated) ← if k = '<' then do
                match (← take) with
                | none => fault "unexpected end of pattern" 0
                | some t =>
                  if t.is '=' then pure (true, false)
                  else if t.is '!' then pure (true, true)
                  else fault ("unknown extension ?<" ++ t.text) (t.width + 2)
              else pure (false, k = '!')
            let saved := (← get).lookbehindFrom
            if behind && saved.isNone then
              let n ← groupCount
              modify fun r => { r with lookbehindFrom := some n }
            let body ← readAlternatives fuel verbose (nested + 1) []
            if behind && saved.isNone then modify fun r => { r with lookbehindFrom := none }
            if !(← accept ')') then fault "missing ), unterminated subpattern" ((← tell) - start)
            continue_ (.look behind negated body :: acc)
          else if (flagOf? k).isSome || k = '-' then
            match (← readFlags k) with
            | none =>
              if !first || !acc.isEmpty then
                fault "global flags not at the start of the expression" ((← tell) - start)
              readSequence fuel (hasFlag (← get).flags verboseFlag) nested first acc
            | some (on, off) =>
              let inner := (verbose || hasFlag on verboseFlag) && !hasFlag off verboseFlag
              continue_ ((← readGroupBody fuel inner nested start none false on off) :: acc)
          else fault ("unknown extension ?" ++ String.singleton k) 2
        | t => fault ("unknown extension ?" ++ t.text) (t.width + 1)
      else
        continue_ ((← readGroupBody fuel verbose nested start (some "") false 0 0) :: acc)
    else continue_ (.char c.toNat :: acc)

/-- The rest of a group after its opening: the alternatives and the closing parenthesis.
`name` is `some` for a capturing group (`""` when unnamed). -/
def readGroupBody : Nat → Bool → Nat → Nat → Option String → Bool → Nat → Nat → ReadM Item
  | 0, _, _, _, _, _, _, _ => throw (.malformed "pattern too deeply nested" none)
  | fuel + 1, verbose, nested, start, name, atomic, on, off => do
    let index ← match name with
      | none => pure none
      | some n => do
        let g ← groupCount
        modify fun r => { r with widths := r.widths.push none }
        if n != "" then
          match (← get).names.lookup n with
          | some old =>
            fault ("redefinition of group name " ++ quote n ++ " as group " ++ toString g ++
              "; was group " ++ toString old) (n.length + 1)
          | none => modify fun r => { r with names := r.names ++ [(n, g)] }
        pure (some g)
    let body ← readAlternatives fuel verbose (nested + 1) []
    if !(← accept ')') then fault "missing ), unterminated subpattern" ((← tell) - start)
    match index with
    | some g =>
      modify fun r => { r with widths := r.widths.set! g (some (widthOf r.widths body)) }
      return .group (some g) 0 0 body
    | none => return if atomic then .atomic body else .group none on off body

/-- A conditional `(?(group)yes|no)`, read after `(?(`. -/
def readCondition : Nat → Bool → Nat → Nat → ReadM Item
  | 0, _, _, _ => throw (.malformed "pattern too deeply nested" none)
  | fuel + 1, verbose, nested, start => do
    let name ← takeUntil ')' "group name"
    let offset := name.length + 1
    let g ← if isIdentifier name then do
        checkName name 1
        match (← get).names.lookup name with
        | none => fault ("unknown group name " ++ quote name) offset
        | some g => pure g
      else do
        let g ← match readInt name with
          | some n => if n < 0 then fault ("bad character in group name " ++ quote name) offset else pure n.toNat
          | none => fault ("bad character in group name " ++ quote name) offset
        if g = 0 then fault "bad group number" offset
        if g ≥ groupLimit then fault ("invalid group reference " ++ toString g) offset
        let r ← get
        if (r.refPositions.lookup g).isNone then
          let here ← tell
          set { r with refPositions := r.refPositions ++ [(g, here - offset)] }
        pure g
    checkLookbehind g
    let yes ← readSequence fuel verbose (nested + 1) false []
    let no ← if ← accept '|' then do
        let no ← readSequence fuel verbose (nested + 1) false []
        if (← peek) == some (.plain '|') then fault "conditional backref with more than two branches" 0
        pure (some no)
      else pure none
    if !(← accept ')') then fault "missing ), unterminated subpattern" ((← tell) - start)
    return .ifGroup g yes no

end


/-- A pattern read into items, with its flags and the widths of its groups. -/
structure Parsed where
  items : List Item
  flags : Nat
  widths : Array (Option (Nat × Nat))

def Parsed.groups (p : Parsed) : Nat := p.widths.size - 1

/-- Reads a pattern text under `flags`. -/
def parse (pattern : String) (flags : Nat) : Except Fault Parsed := do
  let src := pattern.toList.toArray
  let start : Reader := ⟨src, 0, none, flags, #[none], [], none, []⟩
  let read : ReadM Parsed := do
    advance
    let items ← readAlternatives (3 * src.size + 8) (hasFlag flags verboseFlag) 0 []
    let r ← get
    let flags := r.flags
    let flags ← if !hasFlag flags asciiFlag then pure (flags ||| unicodeFlag)
      else if hasFlag flags unicodeFlag then throw .flagsIncompatible else pure flags
    if r.next.isSome then fault "unbalanced parenthesis" 0
    for (g, pos) in r.refPositions do
      if g ≥ r.widths.size then throw (.malformed ("invalid group reference " ++ toString g) (some pos))
    return ⟨items, flags, r.widths⟩
  (read.run start).map Prod.fst

end ClassAtlas.Pattern
