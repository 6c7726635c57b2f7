import GridQuery.Proofs.LongestRun
import GridQuery.Template

/-! Templates part by part. A text is made of plain stretches, references and dollar signs that
stand for themselves, and it is expanded in one pass over them: each reference gives way to its
value, which is not read again, and of the variables that are not set the first one is reported. -/
namespace GridQuery.Template

/-- A part of a template as it is written. -/
inductive Part where
  | plain (text : List Char)
  | braced (name : List Char)
  | bare (name : List Char)
  /-- A reference whose brace is never closed. -/
  | unclosed (name : List Char)
  /-- A dollar sign that stands for itself. -/
  | dollar

namespace Part

def written : Part → List Char
  | plain text => text
  | braced name => '$' :: '{' :: (name ++ ['}'])
  | bare name => '$' :: name
  | unclosed name => '$' :: '{' :: name
  | dollar => ['$']

/-- The variable that a part refers to. -/
def name? : Part → Option String
  | braced name | bare name | unclosed name => some (String.ofList name)
  | plain _ | dollar => none

/-- Whether a part may be written in front of a text. A name without braces goes on as far as it
can, and a brace that is never closed takes all the rest. -/
def Fits (part : Part) (behind : List Char) : Prop :=
  match part with
  | plain text => '$' ∉ text
  | braced name => '}' ∉ name
  | bare name => name ≠ [] ∧ (∀ c ∈ name, isNameChar c = true) ∧
      ∀ c ∈ behind.head?, isNameChar c = false
  | unclosed name => '}' ∉ name ∧ behind = []
  | dollar => ∀ c ∈ behind.head?, c ≠ '{' ∧ isNameChar c = false

instance (part : Part) (behind : List Char) : Decidable (part.Fits behind) :=
  match part with
  | plain text => inferInstanceAs (Decidable ('$' ∉ text))
  | braced name => inferInstanceAs (Decidable ('}' ∉ name))
  | bare name =>
    decidable_of_iff
      (!name.isEmpty && name.all isNameChar && behind.head?.all fun c => !isNameChar c)
      (by simp [Fits, and_assoc, Option.all_eq_true])
  | unclosed name => inferInstanceAs (Decidable ('}' ∉ name ∧ behind = []))
  | dollar =>
    decidable_of_iff (behind.head?.all fun c => c != '{' && !isNameChar c)
      (by simp [Fits, Option.all_eq_true])

/-- What a part is read as. -/
def segments : Part → List Segment
  | plain text => text.map fun c => .literal [c]
  | braced name | bare name | unclosed name => [.valueOf (String.ofList name)]
  | dollar => [.literal ['$']]

def IsSet (environment : String → Option String) (part : Part) : Prop :=
  ∀ name ∈ part.name?, environment name ≠ none

/-- What stands for a part whose variable is set: its value, or the part itself if it is no
reference. -/
def filled (environment : String → Option String) (part : Part) : List Char :=
  match part.name? with
  | some name => ((environment name).getD "").toList
  | none => part.written

end Part

/-- Parts that make a text, one behind the other. -/
inductive Makes : List Part → List Char → Prop where
  | nil : Makes [] []
  | cons {part : Part} {parts : List Part} {rest : List Char} : part.Fits rest →
    Makes parts rest → Makes (part :: parts) (part.written ++ rest)

section Reading

theorem isNameChar_brace : isNameChar '{' = false := by decide +kernel

theorem reference_of_ne_brace {text : List Char} (other : ∀ c ∈ text.head?, c ≠ '{') :
    reference text =
      match text.takeWhile isNameChar with
      | [] => (.literal ['$'], text)
      | name => (.valueOf (String.ofList name), text.dropWhile isNameChar) := by
  rw [reference.eq_def]
  split
  next rest => exact absurd rfl (other '{' rfl)
  next => rfl

theorem reference_brace {name back : List Char} (inside : '}' ∉ name)
    (stops : ∀ c ∈ back.head?, c = '}') :
    reference ('{' :: (name ++ back)) = (.valueOf (String.ofList name), back.drop 1) := by
  have goesOn : ∀ c ∈ name, decide (c ≠ '}') = true := by
    intro c member
    exact decide_eq_true fun same => inside (same ▸ member)
  have ends : ∀ c ∈ back.head?, decide (c ≠ '}') = false := by
    intro c first
    exact decide_eq_false fun other => other (stops c first)
  obtain ⟨taken, left⟩ := takeWhile_append_of_stop goesOn ends
  rw [reference, taken, left]

theorem reference_braced {name rest : List Char} (inside : '}' ∉ name) :
    reference ('{' :: (name ++ '}' :: rest)) = (.valueOf (String.ofList name), rest) :=
  reference_brace inside fun _ first => (Option.some.inj first).symm

theorem reference_unclosed {name : List Char} (inside : '}' ∉ name) :
    reference ('{' :: name) = (.valueOf (String.ofList name), []) := by
  have read := reference_brace inside (show ∀ c ∈ ([] : List Char).head?, c = '}' from nofun)
  rwa [List.append_nil] at read

theorem reference_bare {name rest : List Char} (fits : (Part.bare name).Fits rest) :
    reference (name ++ rest) = (.valueOf (String.ofList name), rest) := by
  obtain ⟨nonempty, goesOn, stops⟩ := fits
  obtain ⟨taken, left⟩ := takeWhile_append_of_stop goesOn stops
  obtain ⟨c, name, rfl⟩ := List.exists_cons_of_ne_nil nonempty
  have other : ∀ first ∈ ((c :: name) ++ rest).head?, first ≠ '{' := by
    rintro _ ⟨⟩ rfl
    have inName := goesOn '{' List.mem_cons_self
    rw [isNameChar_brace] at inName
    cases inName
  rw [reference_of_ne_brace other, taken, left]

theorem reference_dollar {rest : List Char} (fits : Part.dollar.Fits rest) :
    reference rest = (.literal ['$'], rest) := by
  have taken : ([] ++ rest).takeWhile isNameChar = [] :=
    (takeWhile_append_of_stop nofun fun c first => (fits c first).2).1
  rw [List.nil_append] at taken
  rw [reference_of_ne_brace fun c first => (fits c first).1, taken]

theorem parse_dollar (rest : List Char) :
    parse ('$' :: rest) = (reference rest).1 :: parse (reference rest).2 := by
  rw [parse, if_pos rfl]

theorem parse_plain {text : List Char} (plain : '$' ∉ text) (rest : List Char) :
    parse (text ++ rest) = text.map (fun c => .literal [c]) ++ parse rest := by
  induction text with
  | nil => rfl
  | cons c text ih =>
    obtain ⟨first, others⟩ := not_or.mp (List.mem_cons.not.mp plain)
    rw [List.cons_append, parse, if_neg (Ne.symm first), ih others]
    rfl

theorem parse_written {part : Part} {rest : List Char} (fits : part.Fits rest) :
    parse (part.written ++ rest) = part.segments ++ parse rest := by
  cases part with
  | plain text => exact parse_plain fits rest
  | braced name =>
    have whole : (Part.braced name).written ++ rest = '$' :: '{' :: (name ++ '}' :: rest) := by
      simp [Part.written]
    rw [whole, parse_dollar, reference_braced fits]
    rfl
  | bare name =>
    rw [Part.written, List.cons_append, parse_dollar, reference_bare fits]
    rfl
  | unclosed name =>
    obtain ⟨inside, rfl⟩ := fits
    rw [List.append_nil, Part.written, parse_dollar, reference_unclosed inside]
    rfl
  | dollar =>
    rw [Part.written, List.singleton_append, parse_dollar, reference_dollar fits]
    rfl

/-- However a text is taken as parts, it is read part by part. -/
theorem parse_of_makes {parts : List Part} {text : List Char} (makes : Makes parts text) :
    parse text = parts.flatMap (·.segments) := by
  induction makes with
  | nil => rw [parse]; rfl
  | cons fits _ ih => rw [parse_written fits, ih, List.flatMap_cons]

theorem exists_part_of_dollar (rest : List Char) :
    ∃ part : Part, part.Fits (reference rest).2 ∧
      '$' :: rest = part.written ++ (reference rest).2 := by
  by_cases brace : ∃ inner, rest = '{' :: inner
  · obtain ⟨inner, rfl⟩ := brace
    by_cases closed : '}' ∈ inner
    · obtain ⟨name, behind, rfl, inside⟩ := List.eq_append_cons_of_mem closed
      rw [reference_braced inside]
      exact ⟨.braced name, inside, by simp [Part.written]⟩
    · rw [reference_unclosed closed]
      exact ⟨.unclosed inner, ⟨closed, rfl⟩, by simp [Part.written]⟩
  · have other : ∀ c ∈ rest.head?, c ≠ '{' := by
      rintro c first rfl
      exact brace (List.head?_eq_some_iff.mp first)
    rw [reference_of_ne_brace other]
    split
    next nameless =>
      have whole : rest.dropWhile isNameChar = rest := by
        simpa [nameless] using List.takeWhile_append_dropWhile (p := isNameChar) (l := rest)
      have stops := stops_dropWhile isNameChar rest
      rw [whole] at stops
      exact ⟨.dollar, fun c first => ⟨other c first, stops c first⟩, rfl⟩
    next name named =>
      refine ⟨.bare (rest.takeWhile isNameChar), ⟨named, ?_, stops_dropWhile isNameChar rest⟩, ?_⟩
      · exact fun c member => List.mem_takeWhile_imp member
      · rw [Part.written, List.cons_append, List.takeWhile_append_dropWhile]

theorem exists_makes (text : List Char) : ∃ parts, Makes parts text := by
  induction text using parse.induct with
  | case1 => exact ⟨[], .nil⟩
  | case2 rest _ ih =>
    obtain ⟨parts, makes⟩ := ih
    obtain ⟨part, fits, whole⟩ := exists_part_of_dollar rest
    exact ⟨part :: parts, whole ▸ .cons fits makes⟩
  | case3 c rest other ih =>
    obtain ⟨parts, makes⟩ := ih
    have fits : (Part.plain [c]).Fits rest := by
      simpa [Part.Fits] using Ne.symm other
    exact ⟨.plain [c] :: parts, .cons fits makes⟩

end Reading

section Filling

variable {environment : String → Option String}

/-- The text that some segments come to. -/
def filledText (environment : String → Option String) (segments : List Segment) :
    Except MissingVariable (List Char) :=
  (segments.mapM (Segment.fill environment)).map List.flatten

theorem expand_eq (template : String) :
    expand environment template =
      (filledText environment (parse template.toList)).map String.ofList := by
  rw [expand, filledText]
  cases (parse template.toList).mapM (Segment.fill environment) <;> rfl

theorem filledText_append (first second : List Segment) :
    filledText environment (first ++ second) =
      (filledText environment first).bind fun front =>
        (filledText environment second).map (front ++ ·) := by
  rw [filledText, filledText, filledText, List.mapM_append]
  cases first.mapM (Segment.fill environment) with
  | error => rfl
  | ok front =>
    cases second.mapM (Segment.fill environment) with
    | error => rfl
    | ok back => exact congrArg Except.ok List.flatten_append

theorem filledText_literals (text : List Char) :
    filledText environment (text.map fun c => .literal [c]) = .ok text := by
  induction text with
  | nil => rfl
  | cons c rest ih =>
    rw [List.map_cons, ← List.singleton_append, filledText_append, ih]
    rfl

theorem filledText_valueOf (name : String) :
    filledText environment [.valueOf name] =
      match environment name with
      | some value => .ok value.toList
      | none => .error ⟨name⟩ := by
  rw [filledText, List.mapM_cons, Segment.fill]
  cases environment name with
  | none => rfl
  | some value => exact congrArg Except.ok (List.append_nil _)

theorem Part.filledText_segments (part : Part) :
    filledText environment part.segments =
      match part.name? with
      | some name => filledText environment [.valueOf name]
      | none => .ok part.written := by
  cases part with
  | plain text => exact filledText_literals text
  | dollar => rfl
  | braced | bare | unclosed => rfl

theorem Part.filledText_of_isSet {part : Part} (set : part.IsSet environment) :
    filledText environment part.segments = .ok (part.filled environment) := by
  rw [filledText_segments, filled]
  cases named : part.name? with
  | none => rfl
  | some name =>
    obtain ⟨value, found⟩ := Option.ne_none_iff_exists'.mp (set name named)
    simp [filledText_valueOf, found]

theorem filledText_of_isSet {parts : List Part}
    (set : ∀ part ∈ parts, part.IsSet environment) :
    filledText environment (parts.flatMap (·.segments)) =
      .ok (parts.flatMap (·.filled environment)) := by
  induction parts with
  | nil => rfl
  | cons part rest ih =>
    obtain ⟨here, later⟩ := List.forall_mem_cons.mp set
    rw [List.flatMap_cons, filledText_append, Part.filledText_of_isSet here, ih later]
    rfl

theorem filledText_of_missing {before after : List Part} {part : Part} {name : String}
    (set : ∀ earlier ∈ before, earlier.IsSet environment) (refers : part.name? = some name)
    (missing : environment name = none) :
    filledText environment ((before ++ part :: after).flatMap (·.segments)) = .error ⟨name⟩ := by
  have here : filledText environment part.segments = .error ⟨name⟩ := by
    rw [Part.filledText_segments, refers]
    simp [filledText_valueOf, missing]
  rw [List.flatMap_append, filledText_append, filledText_of_isSet set, List.flatMap_cons,
    filledText_append, here]
  rfl

end Filling

/-- A template is expanded part by part, whatever parts it is taken as, and it can be taken as some.
Where all variables are set, each reference gives way to its value and all else stays as it is; else
the first variable that is not set is missing. -/
theorem expand_by_parts (environment : String → Option String) (template : String) :
    (∃ parts, Makes parts template.toList) ∧
    ∀ parts, Makes parts template.toList →
      ((∀ part ∈ parts, part.IsSet environment) →
        expand environment template =
          .ok (String.ofList (parts.flatMap (·.filled environment)))) ∧
      ∀ before part after name, parts = before ++ part :: after →
        (∀ earlier ∈ before, earlier.IsSet environment) → part.name? = some name →
        environment name = none → expand environment template = .error ⟨name⟩ := by
  refine ⟨exists_makes template.toList, fun parts makes => ?_⟩
  have read : expand environment template =
      (filledText environment (parts.flatMap (·.segments))).map String.ofList := by
    rw [expand_eq, parse_of_makes makes]
  constructor
  · intro set
    rw [read, filledText_of_isSet set]
    rfl
  · rintro before part after name rfl set refers missing
    rw [read, filledText_of_missing set refers missing]
    rfl

/-- Two dollar signs, references side by side, and a value that looks like a reference itself. -/
theorem expand_by_parts_sideBySide :
    let parts : List Part := [.plain ['5'], .dollar, .bare ['x'], .braced ['y', ' '], .dollar]
    let environment (name : String) : Option String :=
      if name = "x" then some "$y" else if name = "y " then some "!" else none
    let template := "5$$x$\x7by \x7d$"
    (Makes parts template.toList ∧ (∀ part ∈ parts, part.IsSet environment) ∧
      Part.IsSet (fun _ => none) (.plain ['5']) ∧ Part.IsSet (fun _ => none) .dollar) ∧
    expand environment template = .ok "5$$y!$" ∧
    expand (fun _ => none) template = .error ⟨"x"⟩ := by
  intro parts environment template
  have whole : template.toList = parts.flatMap (·.written) := by decide
  have makes : Makes parts template.toList := by
    rw [whole]
    refine .cons ?_ (.cons ?_ (.cons ?_ (.cons ?_ (.cons ?_ .nil)))) <;> decide +kernel
  have set : ∀ part ∈ parts, part.IsSet environment := by
    simp [parts, environment, Part.IsSet, Part.name?]
  have filled : String.ofList (parts.flatMap (·.filled environment)) = "5$$y!$" := by decide
  have plain : Part.IsSet (fun _ => none) (.plain ['5']) := nofun
  have dollar : Part.IsSet (fun _ => none) .dollar := nofun
  obtain ⟨succeeds, _⟩ := (expand_by_parts environment template).2 parts makes
  obtain ⟨_, fails⟩ := (expand_by_parts (fun _ => none) template).2 parts makes
  refine ⟨⟨makes, set, plain, dollar⟩, filled ▸ succeeds set, ?_⟩
  refine fails [.plain ['5'], .dollar] (.bare ['x']) _ "x" rfl ?_ rfl rfl
  simp [plain, dollar]

end GridQuery.Template
