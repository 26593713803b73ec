import Showroom.Bytes

/-!
# Showroom.Uuid

Universally unique identifiers and the texts that denote them: 32 hexadecimal digits of either
case; the same digits in groups of 8, 4, 4, 4 and 12 joined by hyphens; that form in braces; and
that form after `urn:uuid:`, a prefix whose case does not matter. One identifier thus has many
spellings; `text` writes the hyphenated one in lower case.

A text that denotes none is refused with the first flaw that explains it.
-/

namespace Showroom

structure Uuid where
  value : BitVec 128
deriving DecidableEq, Inhabited

namespace Uuid

/-- Why a text is no identifier. Offsets and lengths count UTF-8 bytes. -/
inductive Flaw where
  | length (found : Nat)
  | character (found : Char) (offset : Nat)
  | groupCount (found : Nat)
  | groupLength (group expected found : Nat)
deriving DecidableEq, Inhabited

namespace Flaw

def message : Flaw → String
  | length found => s!"invalid length: found {found}"
  | character found offset =>
    "invalid character: found `" ++ found.toString ++ "` at " ++ toString offset
  | groupCount found => s!"invalid group count: expected 5, found {found}"
  | groupLength group expected found =>
    s!"invalid group length in group {group}: expected {expected}, found {found}"

end Flaw

/-- The number written by exactly 32 hexadecimal digits. -/
def readDigits (cs : List Char) : Option (BitVec 128) :=
  if cs.length = 32 then
    (cs.mapM Bytes.hexValue?).map fun ds => BitVec.ofNat 128 (ds.foldl (fun n d => 16 * n + d) 0)
  else none

def hyphenPlaces : List Nat := [8, 13, 18, 23]

/-- The number written by five groups joined by hyphens. -/
def readGroups (cs : List Char) : Option (BitVec 128) :=
  let (marks, digits) := cs.zipIdx.partition fun p => hyphenPlaces.contains p.2
  if marks.map (·.1) = ['-', '-', '-', '-'] then readDigits (digits.map (·.1)) else none

def byteLength (cs : List Char) : Nat := cs.foldr (fun c n => c.utf8Size + n) 0

def lowerAscii (cs : List Char) : List Char := cs.map Char.toLower

/-- The prefix of the resource-name form, in lower case. -/
def urnMark : List Char := "urn:uuid:".toList

def inBraces? (cs : List Char) : Option (List Char) :=
  match cs with
  | '{' :: rest => if rest.getLast? = some '}' then some rest.dropLast else none
  | _ => none

def afterUrn? (cs : List Char) : Option (List Char) :=
  if lowerAscii (cs.take 9) = urnMark then some (cs.drop 9) else none

/-- The part that has to be five groups, where the length of the text says that there is one. -/
def groupsOf? (cs : List Char) : Option (List Char) :=
  if byteLength cs = 36 then some cs
  else if byteLength cs = 38 then inBraces? cs
  else if byteLength cs = 45 then afterUrn? cs
  else none

/-- What a scan for digits and hyphens finds: the places of the hyphens, or the first other
character and its place. -/
def scan : (place : Nat) → List Char → Except (Char × Nat) (List Nat)
  | _, [] => .ok []
  | place, c :: cs =>
    if c = '-' then
      match scan (place + 1) cs with
      | .ok hyphens => .ok (place :: hyphens)
      | .error e => .error e
    else if (Bytes.hexValue? c).isSome then scan (place + 1) cs
    else .error (c, place)

/-- The first group whose hyphen is not where it belongs; the last group if all hyphens are. -/
def wrongGroup (hyphens : List Nat) (length : Nat) : Flaw :=
  let groups := [(0, 0, 8), (1, 9, 4), (2, 14, 4), (3, 19, 4)]
  match (groups.zip hyphens).find? fun (g, h) => h ≠ g.2.1 + g.2.2 with
  | some ((group, start, expected), h) => .groupLength group expected (h - start)
  | none => .groupLength 4 12 (length - 24)

/-- What is wrong with a text of digits and hyphens, or with the first other character in it.
The text starts `offset` bytes into one of `length` bytes; `plain` says that the text might have
been meant without hyphens. -/
def explain (cs : List Char) (offset length : Nat) (plain : Bool) : Flaw :=
  match scan 0 cs with
  | .error (c, place) => .character c (offset + place)
  | .ok hyphens =>
    if plain && hyphens.isEmpty then .length length
    else if hyphens.length ≠ 4 then .groupCount (hyphens.length + 1)
    else wrongGroup hyphens length

/-- What is wrong with a text whose length fits no form with groups. -/
def explainAny (cs : List Char) : Flaw :=
  let n := byteLength cs
  if n = 0 ∨ 45 < n then .length n
  else
    match inBraces? cs, afterUrn? cs with
    | some inner, _ => explain inner 1 n false
    | none, some inner => explain inner 9 n false
    | none, none => explain cs 0 n true

def parse (s : String) : Except Flaw Uuid :=
  let cs := s.toList
  match groupsOf? cs with
  | some inner =>
    match readGroups inner with
    | some value => .ok ⟨value⟩
    | none => .error (explain inner 0 (byteLength inner) false)
  | none =>
    match readDigits cs with
    | some value => .ok ⟨value⟩
    | none => .error (explainAny cs)

/-- The 32 digits of a number, in lower case. -/
def digits (value : BitVec 128) : List Char :=
  (List.range 32).map fun i => Bytes.hexDigit ((value.toNat >>> (4 * (31 - i))) % 16)

/-- The hyphenated form in lower case, of 36 characters. -/
def text (u : Uuid) : String :=
  let ds := digits u.value
  String.ofList (ds.take 8 ++ '-' :: (ds.drop 8).take 4 ++ '-' :: (ds.drop 12).take 4
    ++ '-' :: (ds.drop 16).take 4 ++ '-' :: ds.drop 20)

/-- A random identifier made from 128 random bits, six of which are fixed by its version and
variant. -/
def random (bits : BitVec 128) : Uuid :=
  let version := (bits &&& ~~~(0xf#128 <<< 76)) ||| (0x4#128 <<< 76)
  ⟨(version &&& ~~~(0x3#128 <<< 62)) ||| (0x2#128 <<< 62)⟩

end Uuid

end Showroom
