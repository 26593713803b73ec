import Showroom.Bytes
import Showroom.Text.Alphanumeric
import Showroom.Text.Pattern
import Showroom.Text.Space

/-!
# Showroom.Text.Pattern.Reader

The notation of patterns: letters stand for themselves, `.` for any character but a line break, `|`
separates alternatives, `*`, `+` and `?` repeat, and brackets hold classes, which can be nested and
combined. Groups are in parentheses and can switch modes, as in `(?i:x)`.

Classes that need tables of all scripts, such as `\d` and `\pL`, are not known unless a mode limits
them to ASCII, and in that mode nothing stands for characters beyond ASCII. Counted repetitions are
not known either.

* `Pattern.ofText?`   reads one.
-/

namespace Showroom.Text

namespace Pattern

/-- How what follows is to be read. -/
structure Mode where
  ignoresCase : Bool := false
  isMultiLine : Bool := false
  dotIsAll : Bool := false
  isReluctant : Bool := false
  hasReturns : Bool := false
  isSpaced : Bool := false
  isAscii : Bool := false
deriving DecidableEq, Inhabited

def Mode.set? (m : Mode) (value : Bool) : Char → Option Mode
  | 'i' => some { m with ignoresCase := value }
  | 'm' => some { m with isMultiLine := value }
  | 's' => some { m with dotIsAll := value }
  | 'U' => some { m with isReluctant := value }
  | 'R' => some { m with hasReturns := value }
  | 'x' => some { m with isSpaced := value }
  | 'u' => some { m with isAscii := !value }
  | _ => none

def dropComment (cs : List Char) : List Char := (cs.dropWhile (· ≠ '\n')).drop 1

def dropSpace : (fuel : Nat) → List Char → List Char
  | 0, cs => cs
  | fuel + 1, c :: cs =>
    if isSpace c then dropSpace fuel cs
    else if c = '#' then dropSpace fuel (dropComment cs)
    else c :: cs
  | _ + 1, [] => []

def Mode.skip (m : Mode) (cs : List Char) : List Char :=
  if m.isSpaced then dropSpace (cs.length + 1) cs else cs

/-- A letter, a class or a condition. -/
inductive Atom where
  | letter (c : Char)
  | set (set : CharSet)
  | edge (condition : Edge)
deriving DecidableEq, Inhabited

/-- The value of `n` hexadecimal digits at the front of a text, and what follows them. -/
def readHex (m : Mode) : (n value : Nat) → List Char → Option (Nat × List Char)
  | 0, value, cs => some (value, cs)
  | n + 1, value, c :: cs => do readHex m n (16 * value + (← Bytes.hexValue? c)) (m.skip cs)
  | _ + 1, _, [] => none

def readNumbered (m : Mode) (digits : Nat) (cs : List Char) : Option (Atom × List Char) := do
  let (n, rest) ← readHex m digits 0 (m.skip cs)
  if !n.isValidChar || (m.isAscii && digits = 2 && 0x80 ≤ n) then none
  else return (.letter (Char.ofNat n), rest)

def digitRanges : List (Nat × Nat) := [(0x30, 0x39)]

def spaceRanges : List (Nat × Nat) := [(0x9, 0xd), (0x20, 0x20)]

def wordRanges : List (Nat × Nat) := [(0x30, 0x39), (0x41, 0x5a), (0x5f, 0x5f), (0x61, 0x7a)]

/-- A class or condition that is known in ASCII only. -/
def asciiAtom? : Char → Option Atom
  | 'd' => some (.set (.ranges digitRanges))
  | 's' => some (.set (.ranges spaceRanges))
  | 'w' => some (.set (.ranges wordRanges))
  | 'b' => some (.edge .wordEdge)
  | 'B' => some (.edge .wordInside)
  | '<' => some (.edge .wordStart)
  | '>' => some (.edge .wordEnd)
  | _ => none

/-- What a letter after a backslash stands for, whatever the mode. -/
def plainAtom? (c : Char) : Option Atom :=
  match c with
  | 'a' => some (.letter '\x07')
  | 'f' => some (.letter '\x0c')
  | 't' => some (.letter '\t')
  | 'n' => some (.letter '\n')
  | 'r' => some (.letter '\r')
  | 'v' => some (.letter '\x0b')
  | 'A' => some (.edge .textStart)
  | 'z' => some (.edge .textEnd)
  | _ => if c.toNat < 128 && !c.isAlphanum && c ≠ '<' && c ≠ '>' then some (.letter c) else none

def readEscape (m : Mode) : List Char → Option (Atom × List Char)
  | [] => none
  | 'x' :: cs => readNumbered m 2 cs
  | 'u' :: cs => readNumbered m 4 cs
  | 'U' :: cs => readNumbered m 8 cs
  | c :: cs =>
    match plainAtom? c with
    | some a => some (a, cs)
    | none => if m.isAscii then (asciiAtom? c).map fun a => (a, cs) else none

/-! ## Classes -/

def namedRanges? (name : String) : Option (List (Nat × Nat)) :=
  match name with
  | "alnum" => some [(0x30, 0x39), (0x41, 0x5a), (0x61, 0x7a)]
  | "alpha" => some [(0x41, 0x5a), (0x61, 0x7a)]
  | "ascii" => some [(0x0, 0x7f)]
  | "blank" => some [(0x9, 0x9), (0x20, 0x20)]
  | "cntrl" => some [(0x0, 0x1f), (0x7f, 0x7f)]
  | "digit" => some digitRanges
  | "graph" => some [(0x21, 0x7e)]
  | "lower" => some [(0x61, 0x7a)]
  | "print" => some [(0x20, 0x7e)]
  | "punct" => some [(0x21, 0x2f), (0x3a, 0x40), (0x5b, 0x60), (0x7b, 0x7e)]
  | "space" => some spaceRanges
  | "upper" => some [(0x41, 0x5a)]
  | "word" => some wordRanges
  | "xdigit" => some [(0x30, 0x39), (0x41, 0x46), (0x61, 0x66)]
  | _ => none

/-- Reads a named class such as `[:alpha:]` after its bracket: the class, whether it is negated, and
what follows. -/
def readNamed (cs : List Char) : Option (CharSet × Bool × List Char) := do
  let cs ← match cs with
    | ':' :: cs => some cs
    | _ => none
  let (negated, cs) := match cs with
    | '^' :: cs => (true, cs)
    | _ => (false, cs)
  let rs ← namedRanges? (String.ofList (cs.takeWhile (· ≠ ':')))
  match cs.dropWhile (· ≠ ':') with
  | ':' :: ']' :: rest => return (.ranges rs, negated, rest)
  | _ => none

/-- A class in a mode, perhaps negated. -/
def Mode.class? (m : Mode) (negated : Bool) (s : CharSet) : Option CharSet :=
  if m.isAscii then
    if negated then none else some (if m.ignoresCase then .anyCase s else s)
  else if m.ignoresCase then none
  else some (if negated then .complement s else s)

/-- Ways to combine two classes. -/
inductive Combination where
  | intersection
  | difference
  | symmetricDifference
deriving DecidableEq, Inhabited

def Combination.apply : Combination → CharSet → CharSet → CharSet
  | intersection => .intersection
  | difference => .difference
  | symmetricDifference => .symmetricDifference

def combination? : List Char → Option Combination
  | '&' :: '&' :: _ => some .intersection
  | '-' :: '-' :: _ => some .difference
  | '~' :: '~' :: _ => some .symmetricDifference
  | _ => none

/-- A class to the left of a sign, combined with one to the right. -/
def combined (m : Mode) (left : Option (Combination × CharSet)) (right : CharSet) : CharSet :=
  match left with
  | some (sign, a) =>
    if m.ignoresCase then sign.apply (.anyCase a) (.anyCase right) else sign.apply a right
  | none => right

/-- Reads a letter or a class that stands in brackets. -/
def readMember (m : Mode) : List Char → Option (Atom × List Char)
  | [] => none
  | '\\' :: cs => readEscape m cs
  | c :: cs => some (.letter c, cs)

def letterSet? (m : Mode) (first last : Char) : Option CharSet :=
  if m.isAscii && 0x80 ≤ last.toNat then none
  else if last.toNat < first.toNat then none
  else some (.ranges [(first.toNat, last.toNat)])

/-- Reads a letter, a range of letters or a class that stands in brackets. -/
def readRange (m : Mode) (cs : List Char) : Option (CharSet × List Char) := do
  let (first, cs) ← readMember m cs
  let cs := m.skip cs
  let isRange := cs.head? = some '-' &&
    !(m.skip (cs.drop 1)).head?.any fun c => c = ']' || c = '-'
  if !isRange then
    match first with
    | .letter c => return (← letterSet? m c c, cs)
    | .set s => return (s, cs)
    | .edge _ => none
  else
    let (last, cs) ← readMember m (m.skip (cs.drop 1))
    match first, last with
    | .letter a, .letter b => return (← letterSet? m a b, cs)
    | _, _ => none

/-- Reads the signs at the front of brackets that stand for themselves: dashes, or else a closing
bracket. -/
def readFront (m : Mode) (cs : List Char) : CharSet × List Char :=
  match dashes (cs.length + 1) cs with
  | (true, cs) => (.single '-', cs)
  | (false, ']' :: cs) => (.single ']', m.skip cs)
  | (false, cs) => (.empty, cs)
where
  dashes : (fuel : Nat) → List Char → Bool × List Char
    | fuel + 1, '-' :: cs => (true, (dashes fuel (m.skip cs)).2)
    | _, cs => (false, cs)

mutual

def readBrackets (m : Mode) : (fuel : Nat) → List Char → Option (CharSet × List Char)
  | 0, _ => none
  | fuel + 1, cs => do
    let cs := m.skip cs
    let (negated, cs) := match cs with
      | '^' :: cs => (true, m.skip cs)
      | _ => (false, cs)
    let (front, cs) := readFront m cs
    let (s, cs) ← readMembers m fuel none front cs
    return (← m.class? negated s, cs)

/-- Reads the members of a class to its end. What has been read of it is a class to the left of a
sign, if there has been one, and the members since then. -/
def readMembers (m : Mode) : (fuel : Nat) → (left : Option (Combination × CharSet)) →
    (members : CharSet) → List Char → Option (CharSet × List Char)
  | 0, _, _, _ => none
  | fuel + 1, left, members, cs =>
    let cs := m.skip cs
    match combination? cs, cs with
    | some sign, cs =>
      readMembers m fuel (some (sign, combined m left members)) .empty (cs.drop 2)
    | none, [] => none
    | none, ']' :: cs => some (combined m left members, cs)
    | none, '[' :: cs =>
      match readNamed cs with
      | some (s, negated, cs) => do
        readMembers m fuel left (.union members (← m.class? negated s)) cs
      | none => do
        let (s, cs) ← readBrackets m fuel cs
        readMembers m fuel left (.union members s) cs
    | none, cs => do
      let (s, cs) ← readRange m cs
      readMembers m fuel left (.union members s) cs

end

/-! ## Groups -/

/-- What has been read of a pattern: the mode in force, the names of groups, and the rest. -/
structure Reading where
  mode : Mode := {}
  names : List (List Char) := []
  rest : List Char
deriving DecidableEq, Inhabited

/-- Whether a character can be in the name of a group. -/
def isGroupNameChar (c : Char) : Bool := isAlphanumeric c || "_.[]".toList.contains c

/-- Reads the name of a group to the closing angle bracket. -/
def readGroupName (r : Reading) : Option Reading :=
  let name := r.rest.takeWhile (· ≠ '>')
  match name, r.rest.drop name.length with
  | c :: cs, '>' :: rest =>
    if (c = '_' || (isAlphanumeric c && !c.isDigit)) && cs.all isGroupNameChar
        && !r.names.contains name then
      some { r with names := name :: r.names, rest := rest }
    else none
  | _, _ => none

/-- Reads letters of modes, up to a colon or a closing parenthesis. After a dash modes are left. No
letter and no dash may stand twice. -/
def readModes (m : Mode) (seen : List Char) : List Char → Option (Mode × List Char × List Char)
  | [] => none
  | c :: cs =>
    if c = ':' || c = ')' then
      if seen.head? = some '-' then none else some (m, seen, c :: cs)
    else if seen.contains c then none
    else if c = '-' then readModes m (c :: seen) cs
    else match m.set? (!seen.contains '-') c with
      | some m => readModes m (c :: seen) cs
      | none => none

/-- What an opening parenthesis starts: a group, or a change of mode. -/
inductive Opening where
  | group (inside : Reading)
  | change (after : Reading)
deriving DecidableEq, Inhabited

/-- Reads what stands after an opening parenthesis. -/
def readOpening (r : Reading) : Option Opening :=
  match r.mode.skip r.rest with
  | '?' :: 'P' :: '<' :: cs => (readGroupName { r with rest := cs }).map .group
  | '?' :: '<' :: '!' :: _ => none
  | '?' :: '<' :: cs => (readGroupName { r with rest := cs }).map .group
  | '?' :: cs =>
    match readModes r.mode [] cs with
    | some (m, _, ':' :: rest) => some (.group { r with mode := m, rest := rest })
    | some (m, seen, ')' :: rest) =>
      if seen.isEmpty then none else some (.change { r with mode := m, rest := rest })
    | _ => none
  | cs => some (.group { r with rest := cs })

def letter? (m : Mode) (c : Char) : Option Pattern :=
  if !m.ignoresCase then some (one (.single c))
  else if m.isAscii then some (one (.anyCase (.single c)))
  else none

/-- The pattern of a letter, a class or a condition outside of brackets. -/
def ofAtom? (m : Mode) : Atom → Option Pattern
  | .letter c => letter? m c
  | .set s => (m.class? false s).map one
  | .edge e => some (edge e)

def dot? (m : Mode) : Option Pattern :=
  if m.isAscii then none
  else if m.dotIsAll then some (one .all)
  else if m.hasReturns then some (one (.complement (.ranges [(0xa, 0xa), (0xd, 0xd)])))
  else some (one (.complement (.ranges [(0xa, 0xa)])))

def startEdge (m : Mode) : Edge :=
  if !m.isMultiLine then .textStart else if m.hasReturns then .returnLineStart else .lineStart

def endEdge (m : Mode) : Edge :=
  if !m.isMultiLine then .textEnd else if m.hasReturns then .returnLineEnd else .lineEnd

def repetition? (c : Char) : Option (Bool → Pattern → Pattern) :=
  match c with
  | '?' => some optional
  | '*' => some anyNumber
  | '+' => some repeated
  | _ => none

/-- Patterns in a row, the last first. A change of mode is none of them. -/
def row (done : List (Option Pattern)) : Pattern :=
  done.foldl (fun after p => p.elim after fun p => if after = nothing then p else both p after)
    nothing

/-- Reads one sign that is no group, class or repetition. -/
def readSign (m : Mode) : List Char → Option (Pattern × List Char)
  | [] => none
  | '\\' :: cs => do
    let (a, cs) ← readEscape m cs
    return (← ofAtom? m a, cs)
  | '.' :: cs => (dot? m).map fun p => (p, cs)
  | '^' :: cs => some (edge (startEdge m), cs)
  | '$' :: cs => some (edge (endEdge m), cs)
  | '\x7b' :: _ => none
  | c :: cs => (letter? m c).map fun p => (p, cs)

mutual

/-- Reads alternatives, up to the end of the group. -/
def readAlternatives : (fuel : Nat) → Reading → Option (Pattern × Reading)
  | 0, _ => none
  | fuel + 1, r => do
    let (p, r) ← readRow fuel [] r
    match r.rest with
    | '|' :: rest =>
      let (q, r) ← readAlternatives fuel { r with rest := rest }
      return (either p q, r)
    | _ => return (p, r)

/-- Reads patterns in a row, up to the end of the alternative. -/
def readRow : (fuel : Nat) → (done : List (Option Pattern)) → Reading → Option (Pattern × Reading)
  | 0, _, _ => none
  | fuel + 1, done, r =>
    let r := { r with rest := r.mode.skip r.rest }
    match r.rest with
    | [] => some (row done, r)
    | '|' :: _ => some (row done, r)
    | ')' :: _ => some (row done, r)
    | '(' :: cs =>
      match readOpening { r with rest := cs } with
      | none => none
      | some (.change after) => readRow fuel (none :: done) after
      | some (.group inside) => do
        let (p, after) ← readAlternatives fuel inside
        match after.rest with
        | ')' :: cs =>
          readRow fuel (some p :: done) { after with mode := r.mode, rest := cs }
        | _ => none
    | '[' :: cs => do
      let (s, cs) ← readBrackets r.mode (2 * cs.length + 2) cs
      readRow fuel (some (one s) :: done) { r with rest := cs }
    | c :: cs =>
      match repetition? c, done with
      | some repetition, some p :: done =>
        let (isLazy, cs) := match cs with
          | '?' :: cs => (true, cs)
          | _ => (false, cs)
        readRow fuel (some (repetition (isLazy == r.mode.isReluctant) p) :: done)
          { r with rest := cs }
      | some _, _ => none
      | none, done => do
        let (p, cs) ← readSign r.mode (c :: cs)
        readRow fuel (some p :: done) { r with rest := cs }

end

def ofText? (cs : List Char) : Option Pattern := do
  let (p, r) ← readAlternatives (2 * cs.length + 2) { rest := cs }
  if r.rest.isEmpty then return p else none

end Pattern

end Showroom.Text
