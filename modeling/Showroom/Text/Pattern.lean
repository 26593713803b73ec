import Showroom.Text.Range

/-!
# Showroom.Text.Pattern

Patterns of text. Of two alternatives the first is preferred, and a repetition prefers to go on, or
to stop if it is reluctant. The first place at which a pattern fits decides, and there the preferred
way to fit.

A search is a list of threads in the order of preference. A thread is what is left of a pattern; one
of which nothing is left has found a match, and everything behind it is given up.

* `Pattern.endsIn`   whether the match that is found goes to the end of a text.
-/

namespace Showroom.Text

/-- A class of characters. -/
inductive CharSet where
  | ranges (ranges : List (Nat × Nat))
  | union (a b : CharSet)
  | intersection (a b : CharSet)
  | complement (a : CharSet)
  | anyCase (a : CharSet)
deriving DecidableEq, Inhabited

namespace CharSet

def empty : CharSet := ranges []

def all : CharSet := complement empty

def single (c : Char) : CharSet := ranges [(c.toNat, c.toNat)]

def difference (a b : CharSet) : CharSet := intersection a (complement b)

def symmetricDifference (a b : CharSet) : CharSet := union (difference a b) (difference b a)

def has : CharSet → Char → Bool
  | ranges rs, c => inRanges rs c
  | union a b, c => a.has c || b.has c
  | intersection a b, c => a.has c && b.has c
  | complement a, c => !a.has c
  | anyCase a, c => a.has c.toLower || a.has c.toUpper

end CharSet

/-- A condition on the characters around a place. Words consist of ASCII letters, digits and
underscores. -/
inductive Edge where
  | textStart
  | textEnd
  | lineStart
  | lineEnd
  | returnLineStart
  | returnLineEnd
  | wordEdge
  | wordInside
  | wordStart
  | wordEnd
deriving DecidableEq, Inhabited

namespace Edge

def isWordChar (c : Char) : Bool := c.isAlphanum || c = '_'

/-- Whether a condition holds between two characters, of which either may be missing. -/
def holds (before after : Option Char) : Edge → Bool
  | textStart => before.isNone
  | textEnd => after.isNone
  | lineStart => before.all (· = '\n')
  | lineEnd => after.all (· = '\n')
  | returnLineStart =>
    before.all fun c => c = '\n' || (c = '\r' && after ≠ some '\n')
  | returnLineEnd =>
    after.all fun c => c = '\r' || (c = '\n' && before ≠ some '\r')
  | wordEdge => before.any isWordChar != after.any isWordChar
  | wordInside => before.any isWordChar == after.any isWordChar
  | wordStart => !before.any isWordChar && after.any isWordChar
  | wordEnd => before.any isWordChar && !after.any isWordChar

end Edge

/-- A pattern. `again` stands behind a pattern and lets it fit once more, any number of times. -/
inductive Pattern where
  | nothing
  | one (set : CharSet)
  | edge (condition : Edge)
  | both (first second : Pattern)
  | either (first second : Pattern)
  | again (isGreedy : Bool) (body : Pattern)
deriving DecidableEq, Inhabited

namespace Pattern

def canBeEmpty : Pattern → Bool
  | nothing => true
  | one _ => false
  | edge _ => true
  | both a b => a.canBeEmpty && b.canBeEmpty
  | either a b => a.canBeEmpty || b.canBeEmpty
  | again _ _ => true

def optional (isGreedy : Bool) (p : Pattern) : Pattern :=
  if isGreedy then either p nothing else either nothing p

def repeated (isGreedy : Bool) (p : Pattern) : Pattern := both p (again isGreedy p)

def anyNumber (isGreedy : Bool) (p : Pattern) : Pattern :=
  if p.canBeEmpty then optional isGreedy (repeated isGreedy p) else again isGreedy p

def somewhere (p : Pattern) : Pattern := both (again false (one .all)) p

def size : Pattern → Nat
  | both a b => a.size + b.size + 1
  | either a b => a.size + b.size + 1
  | again _ body => body.size + 1
  | _ => 1

abbrev Thread := List Pattern

/-- Follows threads to the next character that they want or to their end. What is seen first counts;
the outcome is in reverse order. -/
def expand (holds : Edge → Bool) : (fuel : Nat) → (todo seen : List Thread) → List Thread
  | 0, _, seen => seen
  | _, [], seen => seen
  | fuel + 1, t :: todo, seen =>
    if seen.contains t then expand holds fuel todo seen
    else
      let todo := match t with
        | [] => todo
        | nothing :: k => k :: todo
        | one _ :: _ => todo
        | edge e :: k => if holds e then k :: todo else todo
        | both a b :: k => (a :: b :: k) :: todo
        | either a b :: k => (a :: k) :: (b :: k) :: todo
        | again isGreedy p :: k =>
          let more := p :: again isGreedy p :: k
          if isGreedy then more :: k :: todo else k :: more :: todo
      expand holds fuel todo (t :: seen)

/-- The threads between two characters, in order. There are at most as many as the pattern has
parts, and each of them takes up few steps. -/
def settled (size : Nat) (before after : Option Char) (threads : List Thread) : List Thread :=
  (expand (Edge.holds before after) (4 * (size + 4)) threads []).reverse

/-- What a thread becomes by a character that it wants. -/
def advance? (c : Char) : Thread → Option Thread
  | one set :: k => if set.has c then some k else none
  | _ => none

/-- Whether threads find a match at the end of a text. A match before the end stops all threads
behind it. -/
def finish (size : Nat) : (before : Option Char) → List Thread → List Char → Bool
  | before, threads, [] => (settled size before none threads).contains []
  | before, threads, c :: cs =>
    let live := (settled size before (some c) threads).takeWhile fun t => !t.isEmpty
    finish size (some c) (live.filterMap (advance? c)) cs

/-- Whether the match that is found goes to the end of a text. -/
def endsIn (p : Pattern) (text : List Char) : Bool :=
  let p := p.somewhere
  finish p.size none [[p]] text

end Pattern

end Showroom.Text
