import AspiManager.Log.Event
import AspiManager.Text.Blank
import AspiManager.Text.Numeral

/-!
# Log filters

A filter is a list of rules separated by commas: `level` for everything, `target=level` for what is
reported under a name that begins with the target, or `target` alone for all of it. Of the rules
that apply to an event the one with the longest target decides; where none applies the event is
dropped.
-/

namespace AspiManager

namespace Log

/-- A rule: which targets it applies to, and the level it lets through. No level lets nothing
through. -/
structure Rule where
  target : String
  level : Option Level
  deriving DecidableEq, Repr

/-- A filter: its rules. -/
structure Filter where
  rules : List Rule
  deriving DecidableEq, Repr

namespace Filter

/-- The levels by their numbers. -/
def levelOfNumber? : Nat → Option (Option Level)
  | 0 => some none
  | 1 => some (some .error)
  | 2 => some (some .warn)
  | 3 => some (some .info)
  | 4 => some (some .debug)
  | 5 => some (some .trace)
  | _ => none

/-- The levels by their names. -/
def levelNames : List (String × Option Level) :=
  [("error", some .error), ("warn", some .warn), ("info", some .info), ("debug", some .debug),
    ("trace", some .trace), ("off", none)]

/-- The level of a number or a name in small or capital letters. -/
def level? (cs : List Char) : Option (Option Level) :=
  match Numeral.natural 10 (UInt64.size - 1) cs with
  | .ok n => levelOfNumber? n
  | .error _ => levelNames.lookup (String.ofList (cs.map Char.toLower))

/-- A character that may begin a rule. -/
def startsRule (c : Char) : Bool :=
  c.isAlphanum || c == '-' || c == ':' || c == '_' || 0x80 ≤ c.toNat

/-- The rule of a text without `=`: a level, or a target of which everything is let through. -/
def bareRule (cs : List Char) : Rule :=
  match level? cs with
  | some level => ⟨"", level⟩
  | none => ⟨String.ofList cs, some .trace⟩

/-- The rule of a text. Blanks around it do not count when `=` is looked for, but belong to the
text that is cut there. -/
def rule? (cs : List Char) : Option Rule :=
  let trimmed := Blank.trim cs
  if !trimmed.head?.any startsRule then none
  else match trimmed.findIdx? (· == '=') with
    | none => if trimmed.contains '[' then none else some (bareRule cs)
    | some i =>
      let target := String.ofList (cs.take i)
      let level := cs.drop (i + 1)
      if (trimmed.take i).contains '[' then none
      else if level.isEmpty then some ⟨target, some .trace⟩
      else (level? level).map fun l => ⟨target, l⟩

/-- The parts of a text between commas. -/
def parts (cs : List Char) : List (List Char) :=
  match cs with
  | [] => [[]]
  | c :: rest =>
    match c == ',', parts rest with
    | true, ps => [] :: ps
    | false, p :: ps => (c :: p) :: ps
    | false, [] => [[c]]

/-- The filter of a text; an empty text lets errors through. -/
def parse? (s : String) : Option Filter :=
  if s.isEmpty then some ⟨[⟨"", some .error⟩]⟩
  else ((parts s.toList).mapM rule?).map Filter.mk

/-- The more telling of two rules: the longer target, else the later rule. -/
def prefer (found : Option Rule) (r : Rule) : Option Rule :=
  match found with
  | some f => if r.target.utf8ByteSize < f.target.utf8ByteSize then found else some r
  | none => some r

/-- The rule that decides about a target. -/
def ruleFor (f : Filter) (target : String) : Option Rule :=
  (f.rules.filter fun r => target.startsWith r.target).foldl prefer none

/-- Whether an event under a target is let through. -/
def allows (f : Filter) (target : String) (level : Level) : Bool :=
  match f.ruleFor target with
  | some ⟨_, some l⟩ => level.rank ≤ l.rank
  | _ => false

end Filter

end Log

end AspiManager
