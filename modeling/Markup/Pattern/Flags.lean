/-!
# Pattern flags

Flags change the meaning of the parts of a pattern that follow them, up to the end of the group in
which they are set.
-/

namespace Markup.Pattern

/-- A flag, by its letter. -/
inductive Flag
  /-- `i`: letters match in either case. -/
  | caseless
  /-- `m`: anchors match at lines. -/
  | lines
  /-- `s`: the dot matches line ends too. -/
  | dotAll
  /-- `U`: repetitions are reluctant by default. -/
  | swapGreed
  /-- `u`: classes are those of all scripts. -/
  | unicode
  /-- `R`: carriage returns end lines too. -/
  | pairs
  /-- `x`: blanks and comments in the pattern are ignored. -/
  | verbose
deriving DecidableEq

/-- The flag of a letter. -/
def Flag.ofLetter? : Char → Option Flag
  | 'i' => some .caseless
  | 'm' => some .lines
  | 's' => some .dotAll
  | 'U' => some .swapGreed
  | 'u' => some .unicode
  | 'R' => some .pairs
  | 'x' => some .verbose
  | _ => none

/-- The flags in force, as far as they bear on matching. -/
structure Flags where
  /-- Do letters match in either case? -/
  caseless : Bool
  /-- Do anchors match at lines? -/
  lines : Bool
  /-- Does the dot match line ends too? -/
  dotAll : Bool
  /-- Are classes those of all scripts? -/
  unicode : Bool
  /-- Do carriage returns end lines too? -/
  pairs : Bool
  /-- Are blanks and comments in the pattern ignored? -/
  verbose : Bool

namespace Flags

/-- The flags at the beginning of a pattern. -/
def initial : Flags :=
  ⟨false, false, false, true, false, false⟩

/-- Sets or clears a flag. -/
def set (flags : Flags) (value : Bool) : Flag → Flags
  | .caseless => { flags with caseless := value }
  | .lines => { flags with lines := value }
  | .dotAll => { flags with dotAll := value }
  | .swapGreed => flags
  | .unicode => { flags with unicode := value }
  | .pairs => { flags with pairs := value }
  | .verbose => { flags with verbose := value }

end Flags

/-- A list of flags as it is being read. -/
structure FlagList where
  /-- The flags named so far. -/
  named : List Flag
  /-- Has a minus sign been met? -/
  negated : Bool
  /-- Was the minus sign the last thing met? -/
  dangling : Bool
  /-- The flags in force after those named so far. -/
  result : Flags

/-- A list of flags that has been read. -/
structure FlagGroup where
  /-- The flags in force after the list. -/
  flags : Flags
  /-- Does the list name no flag? -/
  isEmpty : Bool
  /-- Does a colon end the list, so that the flags are for one group only? -/
  opensGroup : Bool
  /-- What is left of the pattern. -/
  rest : List Char

/-- Reads letters of flags up to a colon or a closing parenthesis. A flag is named at most once, and
a minus sign comes at most once and not last. -/
def FlagList.parse? (list : FlagList) : List Char → Option FlagGroup
  | [] => none
  | c :: rest =>
    if c = ':' ∨ c = ')' then
      if list.dangling then none
      else some ⟨list.result, list.named.isEmpty, c == ':', rest⟩
    else if c = '-' then
      if list.negated then none
      else FlagList.parse? { list with negated := true, dangling := true } rest
    else
      match Flag.ofLetter? c with
      | none => none
      | some flag =>
        if list.named.contains flag then none
        else
          FlagList.parse?
            { list with
              named := flag :: list.named
              dangling := false
              result := list.result.set (!list.negated) flag }
            rest

/-- Reads a list of flags that changes the given ones. -/
def Flags.parse? (flags : Flags) (text : List Char) : Option FlagGroup :=
  FlagList.parse? ⟨[], false, false, flags⟩ text

end Markup.Pattern
