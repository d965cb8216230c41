import SingBox.Common.Srs.Binary
import SingBox.Lib.Text
import SingBox.Rule.Match
/-!
# AdGuard filter lists

`common/convertor/adguard`: `ToOptions` makes headless rules of a filter list and
`FromOptions` writes them back as a list. Of the options these are the fields the
convertor sets; the others are zero. The text of log messages is left out, and
with it `parseADGuardIPCIDRLine`, which only chooses between them.
-/
namespace SingBox.Adguard
open Srs (Str)
open Text (trimSuffix cut contains substringBefore substringAfter splitLines)

def bytes (s : String) : Str := s.toList.map Char.toUInt8

/-- A slice of strings, `none` for nil. -/
abbrev Slice := Option (List Str)

namespace Slice

def strings (s : Slice) : List Str := s.getD []
def len (s : Slice) : Nat := s.strings.length

end Slice

structure DefaultHeadlessRule where
  domain : Slice := none
  domainRegex : Slice := none
  adGuardDomain : Slice := none
  invert : Bool := false
  deriving DecidableEq

inductive HeadlessRule where
  | default (options : DefaultHeadlessRule)
  | logical (mode : LogicalMode) (rules : List HeadlessRule)

/-- The libraries under the convertor and the rule items. -/
structure Library where
  -- `M.IsDomainName`, and `IsUnspecified` of what `M.ParseAddr` makes of a text
  isDomainName : Str → Bool
  isUnspecified : Str → Bool
  /-- `netip.ParseAddr`, and whether the address is unspecified. -/
  parseAddr : Str → Option Bool
  /-- Whether `common.Map` makes a nil slice of an empty one. -/
  emptyIsNil : Bool
  /-- `regexp.Compile`. -/
  compile : Str → Option (String → Bool)
  -- `Match` of `domain.NewMatcher` without suffixes and of `domain.NewAdGuardMatcher`
  domainMatcher : List Str → String → Bool
  adGuardMatcher : List Str → String → Bool

inductive Error where
  | panic
  | empty
  | invalid
  | missingConditions
  | emptyItem
  | domainRegex (index : Nat)
  | subRule (index : Nat) (cause : Error)
  deriving DecidableEq

structure AgdguardRuleLine where
  ruleLine : Str
  isRawDomain : Bool := false
  isExclude : Bool := false
  isSuffix : Bool := false
  hasStart : Bool := false
  hasEnd : Bool := false
  isRegexp : Bool := false
  isImportant : Bool := false
  deriving DecidableEq

/-! ## Lines -/

def maxScanTokenSize : Nat := 64 * 1024

/-- `dropCR` of the scanner. -/
def dropCR (line : Str) : Str := trimSuffix (bytes "\r") line

/-- The lines that `scanner.Scan` gives: a line that does not fit the buffer ends the scan. -/
def scanLines (text : Str) : List Str :=
  ((splitLines 10 text).takeWhile fun line => decide (line.length < maxScanTokenSize)).map dropCR

/-- `strconv.ParseUint(s, 10, 8)` succeeds. -/
def isUint8 (s : Str) : Bool :=
  !s.isEmpty && s.all (fun c => 48 ≤ c && c ≤ 57) &&
    decide (s.foldl (fun n c => n * 10 + (c.toNat - 48)) 0 < 256)

def ignoreIPCIDRRegexp (ruleLine : Str) : Bool :=
  let ruleLine :=
    if (bytes "(http?:\\/\\/)").isPrefixOf ruleLine then ruleLine.drop 12
    else if (bytes "(https?:\\/\\/)").isPrefixOf ruleLine then ruleLine.drop 13
    else if (bytes "^").isPrefixOf ruleLine then ruleLine.drop 1
    else ruleLine
  isUint8 (substringBefore (bytes "\\.") ruleLine) || isUint8 (substringBefore (bytes ".") ruleLine)

section
variable (lib : Library)

section
variable (ruleLine : Str)

/-- `none` for an error; the empty host is a line of another address. -/
def parseAdGuardHostLine : Option Str :=
  match cut (bytes " ") ruleLine with
  | none => none
  | some (before, domain) => match lib.parseAddr before with
    | none => none
    | some false => some []
    | some true => if lib.isDomainName domain then some domain else none

/-- One modifier: `none` if it is unsupported, else whether it is `important`. -/
def parseParam (param : Str) : Option Bool :=
  match param.splitOn 61 with
  | [name] => if name = bytes "important" then some true else none
  | [name, value] =>
    if name = bytes "important" then some true
    else if name = bytes "dnsrewrite" && lib.isUnspecified value then some false
    else none
  | _ => none

/-- The line without its modifiers, and whether it is important. -/
def parseParams : Option (Str × Bool) :=
  if !(bytes "/").isPrefixOf ruleLine && contains (bytes "$") ruleLine then
    (((substringAfter (bytes "$") ruleLine).splitOn 44).mapM (parseParam lib)).map fun important =>
      (substringBefore (bytes "$") ruleLine, important.any id)
  else some (ruleLine, false)

def domainCheck : Str :=
  (if (bytes ".").isPrefixOf ruleLine || (bytes "-").isPrefixOf ruleLine then bytes "r" ++ ruleLine else ruleLine).map
    fun c => if c = 42 then 120 else c

def parsePattern (line : AgdguardRuleLine) : Option AgdguardRuleLine :=
  let line := if contains (bytes "://") line.ruleLine then
    { line with ruleLine := substringAfter (bytes "://") line.ruleLine, isSuffix := true } else line
  let ruleLine := line.ruleLine
  if contains (bytes "/") ruleLine then none
  else if contains (bytes "?") ruleLine || contains (bytes "&") ruleLine then none
  else if contains (bytes "[") ruleLine || contains (bytes "]") ruleLine || contains (bytes "(") ruleLine ||
      contains (bytes ")") ruleLine || contains (bytes "!") ruleLine || contains (bytes "#") ruleLine then none
  else if contains (bytes "~") ruleLine then none
  else if ruleLine = [] then none
  else if lib.isDomainName (domainCheck ruleLine) then some line
  else none

def parseAnchors (isImportant : Bool) : AgdguardRuleLine :=
  let isExclude := (bytes "@@").isPrefixOf ruleLine
  let ruleLine := if isExclude then ruleLine.drop 2 else ruleLine
  let ruleLine := trimSuffix (bytes "|") ruleLine
  let isSuffix := (bytes "||").isPrefixOf ruleLine
  let hasStart := !isSuffix && (bytes "|").isPrefixOf ruleLine
  let ruleLine := if isSuffix then ruleLine.drop 2 else if hasStart then ruleLine.drop 1 else ruleLine
  let hasEnd := (bytes "^").isSuffixOf ruleLine
  let ruleLine := if hasEnd then ruleLine.take (ruleLine.length - 1) else ruleLine
  { ruleLine, isExclude, isSuffix, hasStart, hasEnd, isImportant }

/-- The end of the loop for a line without its anchors. The slice `[1 : len-1]` of a single slash panics. -/
def parseBody (line : AgdguardRuleLine) : Except Error (Option AgdguardRuleLine) :=
  if (bytes "/").isPrefixOf line.ruleLine && (bytes "/").isSuffixOf line.ruleLine then
    if line.ruleLine.length < 2 then .error .panic
    else
      let ruleLine := (line.ruleLine.drop 1).take (line.ruleLine.length - 2)
      if ignoreIPCIDRRegexp ruleLine then .ok none
      else .ok (some { line with ruleLine, isRegexp := true })
  else .ok (parsePattern lib line)

/-- The rest of the loop, for a line that is neither a domain nor a hosts line. -/
def parseFilter : Except Error (Option AgdguardRuleLine) :=
  match parseParams lib (trimSuffix (bytes "|") ruleLine) with
  | none => .ok none
  | some (ruleLine, isImportant) => parseBody lib (parseAnchors ruleLine isImportant)

/-- What one line adds to `ruleLines`. -/
def parseLine : Except Error (Option AgdguardRuleLine) :=
  if ruleLine = [] then .ok none
  else if (bytes "!").isPrefixOf ruleLine || (bytes "#").isPrefixOf ruleLine then .ok none
  else if lib.isDomainName ruleLine then .ok (some { ruleLine, isRawDomain := true })
  else match parseAdGuardHostLine lib ruleLine with
    | some hostLine =>
      if hostLine ≠ [] then .ok (some { ruleLine := hostLine, isRawDomain := true, hasStart := true, hasEnd := true })
      else .ok none
    | none => parseFilter lib ruleLine

end

/-- `ruleLines` after the loop. -/
def ruleLines (text : Str) : Except Error (List AgdguardRuleLine) :=
  ((scanLines text).mapM (parseLine lib)).map List.reduceOption

end

/-! ## Rules -/

def mapDomain (it : AgdguardRuleLine) : Str :=
  let ruleLine := if it.isSuffix then bytes "||" ++ it.ruleLine
    else if it.hasStart then bytes "|" ++ it.ruleLine else it.ruleLine
  if it.hasEnd then ruleLine ++ bytes "^" else ruleLine

/-- The lines of one kind, as `common.Filter` and `common.Map` give them to the options. -/
def selectLines (ruleLines : List AgdguardRuleLine) (isImportant isRegexp isExclude : Bool) : List Str :=
  (ruleLines.filter fun it =>
    it.isImportant == isImportant && it.isRegexp == isRegexp && it.isExclude == isExclude).map mapDomain

section
variable (lib : Library)

/-- The slice `common.Map` returns. -/
def mapped (l : List Str) : Slice := if lib.emptyIsNil && l.isEmpty then none else some l

section
variable (ruleLines : List AgdguardRuleLine)

/-- The default rule for the important or ordinary blocking lines or exceptions. -/
def layer (isImportant isExclude : Bool) : HeadlessRule :=
  .default {
    adGuardDomain := mapped lib (selectLines ruleLines isImportant false isExclude)
    domainRegex := mapped lib (selectLines ruleLines isImportant true isExclude)
    invert := isExclude }

def hasLayer (isImportant isExclude : Bool) : Bool :=
  (selectLines ruleLines isImportant false isExclude).length > 0 ||
    (selectLines ruleLines isImportant true isExclude).length > 0

/-- The nested rules of `ToOptions`. -/
def nestedRule : HeadlessRule :=
  let currentRule := layer lib ruleLines false false
  let currentRule := if hasLayer ruleLines false true then
    .logical .and [layer lib ruleLines false true, currentRule] else currentRule
  let currentRule := if hasLayer ruleLines true false then
    .logical .or [layer lib ruleLines true false, currentRule] else currentRule
  if hasLayer ruleLines true true then .logical .and [layer lib ruleLines true true, currentRule] else currentRule

end

def toOptions (text : Str) : Except Error (List HeadlessRule) := do
  let ruleLines ← ruleLines lib text
  if ruleLines.length = 0 then .error .empty
  else if ruleLines.all (·.isRawDomain) then
    .ok [.default { domain := mapped lib (ruleLines.map (·.ruleLine)) }]
  else .ok [nestedRule lib ruleLines]

end

/-! ## `NewHeadlessRule` -/

/-- `DefaultHeadlessRule.IsValid`: `reflect.DeepEqual` tells an empty slice from nil. -/
def DefaultHeadlessRule.isValid (r : DefaultHeadlessRule) : Bool := r != { invert := r.invert }

mutual

def HeadlessRule.isValid : HeadlessRule → Bool
  | .default options => options.isValid
  | .logical _ rules => rules.length > 0 && HeadlessRule.allValid rules

def HeadlessRule.allValid : List HeadlessRule → Bool
  | [] => true
  | rule :: rules => rule.isValid && HeadlessRule.allValid rules

end

variable (lib : Library) (strategy : DomainMatchStrategy)

/-- `NewDomainRegexItem`, from the expression with the given index on. -/
def compileAll : Nat → List Str → Except Error (List (String → Bool))
  | _, [] => .ok []
  | i, regex :: expressions => match lib.compile regex with
    | none => .error (.domainRegex i)
    | some matcher => (compileAll (i + 1) expressions).map (matcher :: ·)

/-- The items that `NewDefaultHeadlessRule` makes of these options. -/
inductive DomainItem where
  | domain (matcher : String → Bool)
  | domainRegex (matchers : List (String → Bool))
  | adGuardDomain (matcher : String → Bool)

def DomainItem.item : DomainItem → RuleItem
  | .domain matcher => .domain matcher strategy
  | .domainRegex matchers => .domainRegex matchers strategy
  | .adGuardDomain matcher => .adGuardDomain matcher strategy

def newItems (options : DefaultHeadlessRule) : Except Error (List DomainItem) := do
  let domain ← if options.domain.len > 0 then
      if [] ∈ options.domain.strings then .error .emptyItem
      else .ok [.domain (lib.domainMatcher options.domain.strings)]
    else .ok []
  let regex ← if options.domainRegex.len > 0 then
      (compileAll lib 0 options.domainRegex.strings).map fun matchers => [.domainRegex matchers]
    else .ok []
  let adGuard := if options.adGuardDomain.len > 0 then
    [.adGuardDomain (lib.adGuardMatcher options.adGuardDomain.strings)] else []
  .ok (domain ++ regex ++ adGuard)

/-- They are all in `destinationAddressItems`. -/
def headlessItems (items : List DomainItem) : HeadlessItems where
  destinationAddressItems := items.map (·.item strategy)
  destinationAddress_group := by
    intro i hi
    obtain ⟨item, -, rfl⟩ := List.mem_map.1 hi
    cases item <;> rfl
  headless := by
    intro i hi
    simp only [DefaultItems.allItems, List.append_nil, List.nil_append] at hi
    obtain ⟨item, -, rfl⟩ := List.mem_map.1 hi
    cases item <;> rfl

/-- `NewDefaultHeadlessRule`; `strategy` is the router's default, or `AsIS` without a router. -/
def newDefaultHeadlessRule (options : DefaultHeadlessRule) : Except Error SingBox.HeadlessRule :=
  (newItems lib options).map fun items => .default (headlessItems strategy items) options.invert

mutual

/-- `NewHeadlessRule` with `NewLogicalHeadlessRule`. -/
def newHeadlessRule : HeadlessRule → Except Error SingBox.HeadlessRule
  | .default options =>
    if !options.isValid then .error .missingConditions else newDefaultHeadlessRule lib strategy options
  | .logical mode rules =>
    if !(HeadlessRule.logical mode rules).isValid then .error .missingConditions
    else (newRules 0 rules).map fun rules => .logical mode rules false

def newRules : Nat → List HeadlessRule → Except Error (List SingBox.HeadlessRule)
  | _, [] => .ok []
  | i, rule :: rules => match newHeadlessRule rule with
    | .error e => .error (.subRule i e)
    | .ok rule => (newRules (i + 1) rules).map (rule :: ·)

end
end SingBox.Adguard
