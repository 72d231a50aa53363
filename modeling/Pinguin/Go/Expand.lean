/-
Pinguin.Go.Expand — `os.Expand`: shell variables in a text.

A text is cut into the pieces that stay and the variables that are looked
up. `$name` takes letters, digits and underscores, `$1` and the other
special names one character, `$` with braces everything up to the closing
one; braces that are empty or never closed are eaten, and a dollar with no
name behind it stays.
-/
import Pinguin.Go.Strings

namespace Pinguin.Go

def dollar : UInt8 := 0x24
def openBrace : UInt8 := 0x7B
def closeBrace : UInt8 := 0x7D

/-- `os.isShellSpecialVar`. -/
def isShellSpecialVar (c : UInt8) : Bool :=
  (lit "*#$@!?-").contains c || (0x30 ≤ c.toNat && c.toNat ≤ 0x39)

/-- `os.isAlphaNum`. -/
def isAlphaNum (c : UInt8) : Bool :=
  c = 0x5F || (0x30 ≤ c.toNat && c.toNat ≤ 0x39) || (0x61 ≤ c.toNat && c.toNat ≤ 0x7A)
    || (0x41 ≤ c.toNat && c.toNat ≤ 0x5A)

/-- The name between braces and the bytes it takes, the opening one gone. -/
def bracedName (s : GoString) : GoString × Nat :=
  match s with
  | c :: d :: _ =>
    if isShellSpecialVar c && d = closeBrace then ([c], 3)
    else scan s
  | _ => scan s
where
  scan (s : GoString) : GoString × Nat :=
    if s.contains closeBrace then
      let name := s.takeWhile (· != closeBrace)
      (name, name.length + 2)
    else ([], 1)

/-- `os.getShellName`: the name behind a dollar and the bytes it takes. -/
def getShellName : GoString → GoString × Nat
  | [] => ([], 0)
  | c :: rest =>
    if c = openBrace then bracedName rest
    else if isShellSpecialVar c then ([c], 1)
    else
      let name := (c :: rest).takeWhile isAlphaNum
      (name, name.length)

/-- A piece of a text. -/
inductive ShellPart where
  | text (b : UInt8)
  | var (name : GoString)
deriving DecidableEq, Repr

def shellPartsFuel : Nat → GoString → List ShellPart
  | 0, _ => []
  | _ + 1, [] => []
  | fuel + 1, b :: rest =>
    if b = dollar ∧ rest ≠ [] then
      let (name, w) := getShellName rest
      let later := shellPartsFuel fuel (rest.drop w)
      if name ≠ [] then .var name :: later
      else if 0 < w then later
      else .text b :: later
    else .text b :: shellPartsFuel fuel rest

/-- The pieces of a text. -/
def shellParts (s : GoString) : List ShellPart := shellPartsFuel s.length s

/-- `os.Expand`. -/
def expand (s : GoString) (mapping : GoString → GoString) : GoString :=
  (shellParts s).flatMap fun
    | .text b => [b]
    | .var name => mapping name

/-- The names `os.Expand` looks up, in order. -/
def expandNames (s : GoString) : List GoString :=
  (shellParts s).filterMap fun
    | .text _ => none
    | .var name => some name

example : expand (lit "a$b.$\x7bc d\x7d$\x7b\x7d$$1 $ $") (fun name => lit "<" ++ name ++ lit ">") =
    lit "a<b>.<c d><$>1 $ $" := by decide

end Pinguin.Go
