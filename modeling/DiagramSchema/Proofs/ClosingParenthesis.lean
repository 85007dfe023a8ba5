import DiagramSchema.Proofs.DefaultValue

/-! Where a default ends in a line of decorators. If parentheses and quotes match up to a closing
parenthesis, the default ends there, whatever stands before the decorator and behind it. -/
namespace DiagramSchema.DefaultForm
open Text

/-- What stands between the quotes of a literal: a backslash before each double quote, and nowhere
else. -/
inductive IsLiteralBody : Text → Prop where
  | nil : IsLiteralBody []
  | plain {c : Char} {rest : Text} (sign : c ≠ '"' ∧ c ≠ '\\') (tail : IsLiteralBody rest) :
      IsLiteralBody (c :: rest)
  | escaped {rest : Text} (tail : IsLiteralBody rest) : IsLiteralBody ('\\' :: '"' :: rest)

/-- Groups in parentheses, literals, and other characters but backslashes. -/
inductive IsBalanced : Text → Prop where
  | nil : IsBalanced []
  | plain {c : Char} {rest : Text} (sign : c ∉ ['"', '\\', '(', ')']) (tail : IsBalanced rest) :
      IsBalanced (c :: rest)
  | group {inner rest : Text} (inside : IsBalanced inner) (tail : IsBalanced rest) :
      IsBalanced ('(' :: (inner ++ ')' :: rest))
  | literal {body rest : Text} (inside : IsLiteralBody body) (tail : IsBalanced rest) :
      IsBalanced ('"' :: (body ++ '"' :: rest))

section
variable {previous : Option Char}

theorem behind_quote : some '"' ≠ some '\\' := by decide

theorem upToClosing_quote (before : previous ≠ some '\\') (quoted : Bool) (depth : Nat) (rest : Text) :
    upToClosing previous quoted depth ('"' :: rest) =
      '"' :: upToClosing (some '"') (!quoted) depth rest := by
  simp [upToClosing, before]

theorem upToClosing_quoted {c : Char} (held : c = '"' → previous = some '\\') (depth : Nat)
    (rest : Text) :
    upToClosing previous true depth (c :: rest) = c :: upToClosing (some c) true depth rest := by
  by_cases quote : c = '"'
  · simp [upToClosing, held quote]
  · simp [upToClosing, quote]

theorem upToClosing_plain {c : Char} (sign : c ∉ ['"', '\\', '(', ')']) (depth : Nat) (rest : Text) :
    upToClosing previous false depth (c :: rest) = c :: upToClosing (some c) false depth rest := by
  simp only [List.mem_cons, List.not_mem_nil, or_false, not_or] at sign
  simp [upToClosing, sign]

theorem upToClosing_opens (depth : Nat) (rest : Text) :
    upToClosing previous false depth ('(' :: rest) =
      '(' :: upToClosing (some '(') false (depth + 1) rest := by
  simp [upToClosing]

theorem upToClosing_closes (depth : Nat) (rest : Text) :
    upToClosing previous false (depth + 1) (')' :: rest) =
      ')' :: upToClosing (some ')') false depth rest := by
  simp [upToClosing]

theorem upToClosing_ends (rest : Text) : upToClosing previous false 0 (')' :: rest) = [] := by
  simp [upToClosing]

theorem upToClosing_body {body : Text} (isBody : IsLiteralBody body)
    (before : previous ≠ some '\\') (depth : Nat) : ∃ last, last ≠ some '\\' ∧ ∀ rest,
      upToClosing previous true depth (body ++ rest) = body ++ upToClosing last true depth rest := by
  induction isBody generalizing previous with
  | nil => exact ⟨previous, before, fun rest => rfl⟩
  | @plain c body sign tail ih =>
    have other : some c ≠ some '\\' := by simpa using sign.2
    obtain ⟨last, behind, passed⟩ := ih other
    refine ⟨last, behind, fun rest => ?_⟩
    rw [List.cons_append, upToClosing_quoted (fun quote => absurd quote sign.1), passed,
      List.cons_append]
  | @escaped body tail ih =>
    obtain ⟨last, behind, passed⟩ := ih behind_quote
    refine ⟨last, behind, fun rest => ?_⟩
    rw [List.cons_append, List.cons_append, upToClosing_quoted (by simp),
      upToClosing_quoted (fun _ => rfl), passed, List.cons_append, List.cons_append]

theorem upToClosing_balanced {s : Text} (balanced : IsBalanced s) (before : previous ≠ some '\\')
    (depth : Nat) : ∃ last, last ≠ some '\\' ∧ ∀ rest,
      upToClosing previous false depth (s ++ rest) = s ++ upToClosing last false depth rest := by
  -- the depth varies, since a group is read one level further down
  induction balanced generalizing previous depth with
  | nil => exact ⟨previous, before, fun rest => rfl⟩
  | @plain c s sign tail ih =>
    have other : some c ≠ some '\\' := by
      simp only [List.mem_cons, not_or] at sign
      simpa using sign.2.1
    obtain ⟨last, behind, passed⟩ := ih other depth
    refine ⟨last, behind, fun rest => ?_⟩
    rw [List.cons_append, upToClosing_plain sign, passed, List.cons_append]
  | @group inner s inside tail innerPassed tailPassed =>
    have behindOpening : some '(' ≠ some '\\' := by decide
    have behindClosing : some ')' ≠ some '\\' := by decide
    obtain ⟨within, _, enters⟩ := innerPassed behindOpening (depth + 1)
    obtain ⟨last, behind, passed⟩ := tailPassed behindClosing depth
    refine ⟨last, behind, fun rest => ?_⟩
    rw [List.cons_append, upToClosing_opens, List.append_assoc, enters, List.cons_append,
      upToClosing_closes, passed]
    simp
  | @literal body s inside tail ih =>
    obtain ⟨within, unescaped, enters⟩ := upToClosing_body inside behind_quote depth
    obtain ⟨last, behind, passed⟩ := ih behind_quote depth
    refine ⟨last, behind, fun rest => ?_⟩
    rw [List.cons_append, upToClosing_quote before, List.append_assoc, Bool.not_false, enters,
      List.cons_append, upToClosing_quote unescaped, Bool.not_true, passed]
    simp

end

theorem isUnclosed_of_balanced {s : Text} (balanced : IsBalanced s) : IsUnclosed s := by
  have nothing : (none : Option Char) ≠ some '\\' := by decide
  obtain ⟨last, _, passed⟩ := upToClosing_balanced balanced nothing 0
  simpa [IsUnclosed, upToClosing] using passed []

theorem upToClosing_matched {s : Text} (balanced : IsBalanced s) (rest : Text) :
    upToClosing none false 0 (s ++ ')' :: rest) = s := by
  have nothing : (none : Option Char) ≠ some '\\' := by decide
  obtain ⟨last, _, passed⟩ := upToClosing_balanced balanced nothing 0
  rw [passed, upToClosing_ends, List.append_nil]

theorem prefix_of_append {a : Char} {pattern front rest : Text} (lacks : a ∉ pattern)
    (starts : pattern <+: front ++ a :: rest) : pattern <+: front := by
  induction front generalizing pattern with
  | nil =>
    cases pattern with
    | nil => exact List.nil_prefix
    | cons d pattern => exact absurd (by simp [(List.cons_prefix_cons.mp starts).1]) lacks
  | cons c front ih =>
    cases pattern with
    | nil => exact List.nil_prefix
    | cons d pattern =>
      obtain ⟨rfl, more⟩ := List.cons_prefix_cons.mp starts
      exact List.cons_prefix_cons.mpr ⟨rfl, ih (fun inside => lacks (by simp [inside])) more⟩

theorem after_first {front : Text} (absent : ¬ opening <:+: front) (rest : Text) :
    Text.after? opening (front ++ (opening ++ rest)) = some rest := by
  induction front with
  | nil => exact after_opening rest
  | cons c front ih =>
    have later := ih fun inside => absent (inside.trans (List.suffix_cons c front).isInfix)
    have apart : opening.isPrefixOf? (c :: (front ++ (opening ++ rest))) = none := by
      rw [Option.eq_none_iff_forall_ne_some]
      intro more found
      have starts : opening <+: c :: (front ++ (opening ++ rest)) :=
        ⟨more, List.isPrefixOf?_eq_some_iff_append_eq.mp found⟩
      obtain ⟨rfl, word⟩ := List.cons_prefix_cons.mp starts
      have within := prefix_of_append (by decide) word
      exact absent (List.cons_prefix_cons.mpr ⟨rfl, within⟩).isInfix
    rw [List.cons_append, Text.after?, apart]
    exact later

theorem beforeLast_first (inner behind : Text) :
    Text.beforeLast? ')' (inner ++ ')' :: behind) = some inner ∨
      ∃ more, Text.beforeLast? ')' (inner ++ ')' :: behind) = some (inner ++ ')' :: more) := by
  by_cases closed : ')' ∈ behind
  · obtain ⟨back, front, split, last⟩ := List.eq_append_cons_of_mem (List.mem_reverse.mpr closed)
    have parts : behind = front.reverse ++ ')' :: back.reverse := by
      rw [← List.reverse_reverse behind, split]
      simp
    have shape : inner ++ ')' :: behind = (inner ++ ')' :: front.reverse) ++ ')' :: back.reverse := by
      rw [parts]
      simp
    refine Or.inr ⟨front.reverse, ?_⟩
    rw [shape, beforeLast_mark (by simpa using last)]
  · exact Or.inl (beforeLast_mark closed inner)

theorem recover_matched {front inner : Text} (first : ¬ opening <:+: front)
    (balanced : IsBalanced inner) (behind : Text) :
    recover? (front ++ opening ++ inner ++ ')' :: behind) = some (opened (trim inner)) := by
  have shape : front ++ opening ++ inner ++ ')' :: behind =
      front ++ (opening ++ (inner ++ ')' :: behind)) := by simp
  have whole : upToClosing none false 0 inner = inner := isUnclosed_of_balanced balanced
  rw [shape, recover?, after_first first, Option.bind_some]
  rcases beforeLast_first inner behind with alone | ⟨more, longer⟩
  · rw [alone, Option.map_some, whole]
  · rw [longer, Option.map_some, upToClosing_matched balanced]

/-- On one line, a default in matching parentheses is what stands in them without the blanks around
it, and of a literal what stands between its quotes, with the quotes in it no longer escaped. -/
theorem default_matched {front inner behind : Text} (first : ¬ opening <:+: front)
    (balanced : IsBalanced inner) (one : '\n' ∉ inner) (oneBehind : '\n' ∉ behind) :
    '\n' ∉ inner ++ ')' :: behind ∧
      (∀ body, trim inner = '"' :: (body ++ ['"']) →
        recover? (front ++ opening ++ inner ++ ')' :: behind) = some (unescapeQuotes body)) ∧
      ((∀ body, trim inner ≠ '"' :: (body ++ ['"'])) →
        recover? (front ++ opening ++ inner ++ ')' :: behind) = some (trim inner)) := by
  refine ⟨by simp [one, oneBehind], fun body quoted => ?_, fun other => ?_⟩
  · rw [recover_matched first balanced, quoted, opened_quoted]
  · rw [recover_matched first balanced, opened_other other]

def nested : Text := " [(\")\\\"(\")] "

def spelled : Text := "\"(\\\" )\" "

def leading : Text := "@map(\"(\") @default @unique"

def trailing : Text := ") @map(\"_id\") @default(1)"

theorem nested_balanced : IsBalanced nested := by
  have body : IsLiteralBody [')', '\\', '"', '('] := .plain (by decide) (.escaped (.plain (by decide) .nil))
  have literal : IsBalanced ['"', ')', '\\', '"', '(', '"'] := .literal body .nil
  have behind : IsBalanced [']', ' '] := .plain (by decide) (.plain (by decide) .nil)
  exact .plain (by decide) (.plain (by decide) (.group literal behind))

theorem spelled_balanced : IsBalanced spelled := by
  have body : IsLiteralBody ['(', '\\', '"', ' ', ')'] :=
    .plain (by decide) (.escaped (.plain (by decide) (.plain (by decide) .nil)))
  have behind : IsBalanced [' '] := .plain (by decide) .nil
  exact .literal body behind

theorem nested_matched : ¬ opening <:+: leading ∧ '\n' ∉ trailing ∧
    (IsBalanced nested ∧ '\n' ∉ nested ∧
      recover? (leading ++ opening ++ nested ++ ')' :: trailing) = some ("[(\")\\\"(\")]" : Text)) ∧
    IsBalanced spelled ∧ '\n' ∉ spelled ∧
      recover? (leading ++ opening ++ spelled ++ ')' :: trailing) = some ("(\" )" : Text) := by
  have first : ¬ opening <:+: leading := by
    rw [← occursIn_iff]
    decide
  have one : '\n' ∉ nested ∧ '\n' ∉ spelled ∧ '\n' ∉ trailing := by decide
  have plain : ∀ body, trim nested ≠ '"' :: (body ++ ['"']) := by
    intro body same
    have first : (trim nested).head? = some '[' := by decide
    rw [same] at first
    exact absurd first (by simp)
  have quoted : trim spelled = '"' :: (['(', '\\', '"', ' ', ')'] ++ ['"']) := by decide
  exact ⟨first, one.2.2,
    ⟨nested_balanced, one.1, (default_matched first nested_balanced one.1 one.2.2).2.2 plain⟩,
    spelled_balanced, one.2.1,
    (default_matched first spelled_balanced one.2.1 one.2.2).2.1 _ quoted⟩

end DiagramSchema.DefaultForm
