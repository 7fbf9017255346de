import TaskQuery.Check.Content
import TaskQuery.Proofs.OperandRow

namespace TaskQuery

namespace ContentPattern

theorem not_repeated {accepts : Char → Bool} {next : Option Char → List Char → Bool} {before : Option Char} {cs : List Char}
    (never : ∀ before suffix, suffix <:+ cs → next before suffix = false) : repeated accepts next before cs = false := by
  induction cs generalizing before with
  | nil => exact never before [] (List.suffix_refl _)
  | cons c cs ih =>
    have later : repeated accepts next (some c) cs = false :=
      ih fun before suffix inside => never before suffix (inside.trans (List.suffix_cons c cs))
    rw [repeated, never before (c :: cs) (List.suffix_refl _), later, Bool.and_false, Bool.or_false]

theorem not_matchesAt {pattern : ContentPattern} {cls : CharClass} (member : .one cls ∈ pattern) {before : Option Char}
    {cs : List Char} (missing : ∀ c ∈ cs, cls.accepts c = false) : pattern.matchesAt before cs = false := by
  induction pattern generalizing before cs with
  | nil => cases member
  | cons piece pieces ih =>
    cases piece with
    | edge =>
      have later : .one cls ∈ pieces := (List.mem_cons.1 member).resolve_left fun same => by cases same
      rw [matchesAt, ih later missing, Bool.and_false]
    | one own =>
      cases cs with
      | nil => rfl
      | cons c cs =>
        obtain ⟨here, others⟩ := List.forall_mem_cons.1 missing
        rw [matchesAt]
        rcases List.mem_cons.1 member with same | later
        · cases same
          rw [here, Bool.false_and]
        · rw [ih later others, Bool.and_false]
    | many own =>
      have later : .one cls ∈ pieces := (List.mem_cons.1 member).resolve_left fun same => by cases same
      rw [matchesAt]
      exact not_repeated fun _ _ inside => ih later fun c found => missing c (inside.subset found)

/-- A pattern does not occur in a text without any character that one of its pieces accepts. -/
theorem not_occursAfter {pattern : ContentPattern} {cls : CharClass} (member : .one cls ∈ pattern) {before : Option Char}
    {cs : List Char} (missing : ∀ c ∈ cs, cls.accepts c = false) : pattern.occursAfter before cs = false := by
  induction cs generalizing before with
  | nil => exact not_matchesAt member missing
  | cons c cs ih =>
    rw [occursAfter, not_matchesAt member missing, ih (List.forall_mem_cons.1 missing).2, Bool.or_false]

/-- Whether a piece is a single character. -/
def isOne : Piece → Bool
  | .one _ => true
  | _ => false

/-- Whether a pattern begins or ends at the edge of a word. -/
def touchesEdge (pattern : ContentPattern) : Bool :=
  pattern.head? == some .edge || pattern.getLast? == some .edge

/-- Whether every edge of a word in a pattern has a character of the pattern behind it. -/
def ownsEdges : ContentPattern → Bool
  | [] => true
  | piece :: pieces => (piece != .edge || pieces.any isOne) && ownsEdges pieces

/-- A pattern that neither begins nor ends at the edge of a word looks at its own characters alone. -/
theorem begins_of_touchesEdge {pattern : ContentPattern} (member : pattern ∈ disallowed)
    (free : pattern.touchesEdge = false) : pattern.head?.any isOne = true ∧ pattern.ownsEdges = true := by
  have each : disallowed.all (fun p => p.touchesEdge || p.head?.any isOne && p.ownsEdges) = true := by decide
  have here := List.all_eq_true.1 each pattern member
  rwa [free, Bool.false_or, Bool.and_eq_true] at here

example : disallowed.map touchesEdge = List.replicate 7 false ++ List.replicate 4 true := by decide

section Padding

variable {pattern : ContentPattern} {cs : List Char}

theorem repeated_append {accepts : Char → Bool} {next : Option Char → List Char → Bool} {back : List Char}
    (kept : ∀ before cs, next before cs = true → next before (cs ++ back) = true) {before : Option Char}
    (here : repeated accepts next before cs = true) : repeated accepts next before (cs ++ back) = true := by
  induction cs generalizing before with
  | nil =>
    have first := kept before [] here
    rw [List.nil_append] at first ⊢
    cases back with
    | nil => exact first
    | cons c back => rw [repeated, first, Bool.true_or]
  | cons c cs ih =>
    rw [repeated, Bool.or_eq_true, Bool.and_eq_true] at here
    rw [List.cons_append, repeated, Bool.or_eq_true, Bool.and_eq_true]
    rcases here with now | ⟨accepted, later⟩
    · exact .inl (kept before (c :: cs) now)
    · exact .inr ⟨accepted, ih later⟩

/-- A match is not undone by what stands behind the text, unless an edge at the end of the text is needed and lost. -/
theorem matchesAt_append {back : List Char} (kept : back.head?.any Text.isWordChar = false ∨ pattern.ownsEdges = true)
    {before : Option Char} (found : pattern.matchesAt before cs = true) : pattern.matchesAt before (cs ++ back) = true := by
  induction pattern generalizing before cs with
  | nil => rfl
  | cons piece pieces ih =>
    have later : back.head?.any Text.isWordChar = false ∨ ownsEdges pieces = true :=
      kept.imp_right fun owns => (Bool.and_eq_true_iff.1 owns).2
    cases piece with
    | edge =>
      rw [matchesAt, Bool.and_eq_true] at found ⊢
      obtain ⟨edge, rest⟩ := found
      refine ⟨?_, ih later rest⟩
      cases cs with
      | nil =>
        rcases kept with noWord | owns
        · rwa [List.nil_append, Text.isWordEdge, noWord]
        · obtain ⟨one, member, isOne⟩ := List.any_eq_true.1 (Bool.and_eq_true_iff.1 owns).1
          cases one with
          | one cls => rw [not_matchesAt member (List.forall_mem_nil _)] at rest; cases rest
          | _ => cases isOne
      | cons => exact edge
    | one cls =>
      cases cs with
      | nil => cases found
      | cons c cs =>
        rw [matchesAt, Bool.and_eq_true] at found
        rw [List.cons_append, matchesAt, Bool.and_eq_true]
        exact ⟨found.1, ih later found.2⟩
    | many cls =>
      rw [matchesAt] at found ⊢
      exact repeated_append (fun _ _ => ih later) found

/-- Of the character before the text a match knows whether it is one of a word, if it begins with an edge. -/
theorem matchesAt_congr {before other : Option Char}
    (same : before.any Text.isWordChar = other.any Text.isWordChar ∨ pattern.head?.any isOne = true) :
    pattern.matchesAt before cs = pattern.matchesAt other cs := by
  rcases same with same | begins
  · induction pattern generalizing cs with
    | nil => rfl
    | cons piece pieces ih =>
      cases piece with
      | edge => rw [matchesAt, matchesAt, Text.isWordEdge, Text.isWordEdge, same, ih]
      | one cls => rfl
      | many cls =>
        rw [matchesAt, matchesAt]
        cases cs with
        | nil => exact ih
        | cons c cs => rw [repeated, repeated, ih]
  · cases pattern with
    | nil => rfl
    | cons piece pieces =>
      cases piece with
      | one cls => rfl
      | _ => cases begins

theorem occursAfter_of_matchesAt {before : Option Char} (found : pattern.matchesAt before cs = true) :
    pattern.occursAfter before cs = true := by
  cases cs with
  | nil => exact found
  | cons => rw [occursAfter, found, Bool.true_or]

theorem occursAfter_append {back : List Char} (kept : back.head?.any Text.isWordChar = false ∨ pattern.ownsEdges = true)
    {before : Option Char} (found : pattern.occursAfter before cs = true) :
    pattern.occursAfter before (cs ++ back) = true := by
  induction cs generalizing before with
  | nil => exact occursAfter_of_matchesAt (matchesAt_append kept found)
  | cons c cs ih =>
    rw [occursAfter, Bool.or_eq_true] at found
    rw [List.cons_append, occursAfter, Bool.or_eq_true]
    exact found.imp (matchesAt_append kept) ih

theorem occursAfter_congr {before other : Option Char}
    (same : before.any Text.isWordChar = other.any Text.isWordChar ∨ pattern.head?.any isOne = true) :
    pattern.occursAfter before cs = pattern.occursAfter other cs := by
  cases cs with
  | nil => exact matchesAt_congr same
  | cons c cs => rw [occursAfter, occursAfter, matchesAt_congr same]

/-- What occurs behind the last character of a text occurs in the whole. -/
theorem occursAfter_front {front : List Char} {before : Option Char}
    (found : pattern.occursAfter (front.getLast?.or before) cs = true) : pattern.occursAfter before (front ++ cs) = true := by
  induction front generalizing before with
  | nil => exact found
  | cons c front ih =>
    have later : pattern.occursAfter (front.getLast?.or (some c)) cs = true := by
      rwa [List.getLast?_cons, Option.some_or, ← Option.or_some] at found
    rw [List.cons_append, occursAfter, ih later, Bool.or_true]

/-- A pattern that occurs in a text occurs in it with further characters in front and behind, where these are none of a
word or the pattern does not look at them. -/
theorem occursIn_padded {front back : List Char}
    (kept : front.getLast?.any Text.isWordChar = false ∧ back.head?.any Text.isWordChar = false ∨
      pattern.head?.any isOne = true ∧ pattern.ownsEdges = true)
    (found : pattern.occursIn cs = true) : pattern.occursIn (front ++ cs ++ back) = true := by
  refine occursAfter_append (kept.imp And.right And.right) (occursAfter_front ?_)
  rw [Option.or_none, ← found]
  exact occursAfter_congr (kept.imp And.left And.left)

end Padding

end ContentPattern

/-- Whether a piece is a single character other than `c`. -/
def Piece.rejects (c : Char) : Piece → Bool
  | .one cls => !cls.accepts c
  | _ => false

/-- Every pattern has a letter or a sign other than `a`. -/
theorem hasDisallowedContent_replicate (n : Nat) : hasDisallowedContent (String.ofList (List.replicate n 'a')) = false := by
  have others : ContentPattern.disallowed.all (·.any (Piece.rejects 'a')) = true := by decide
  rw [hasDisallowedContent, String.toList_ofList]
  refine List.any_eq_false.2 fun pattern member => ?_
  obtain ⟨piece, inside, rejects⟩ := List.any_eq_true.1 (List.all_eq_true.1 others pattern member)
  cases piece with
  | one cls =>
    rw [Bool.not_eq_true]
    refine ContentPattern.not_occursAfter inside fun c found => ?_
    have rejected : (!cls.accepts 'a') = true := rejects
    rwa [List.eq_of_mem_replicate found, ← Bool.not_eq_true']
  | _ => cases rejects

theorem hasDisallowedContent_dropFinalNewline {s : String} (harmless : hasDisallowedContent s = false) :
    hasDisallowedContent (String.ofList (dropFinalNewline s.toList)) = false := by
  rw [Bool.eq_false_iff, hasDisallowedContent, String.toList_ofList] at *
  intro harmful
  refine harmless ?_
  rcases dropFinalNewline_cases s.toList with same | longer
  · rwa [same] at harmful
  · obtain ⟨pattern, member, found⟩ := List.any_eq_true.1 harmful
    rw [longer]
    exact List.any_eq_true.2 ⟨pattern, member, ContentPattern.occursAfter_append (.inl (by decide)) found⟩

end TaskQuery
