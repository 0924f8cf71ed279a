import ChartOperator.Proofs.Except
import ChartOperator.Proofs.Text
import ChartOperator.Resource.LabelSelector

/-!
# What the text form of a selector tells

A selector has a text form unless one of its requirements has none.  Commas stand between the parts
of a selector and between the values of a requirement as well, but the latter in parentheses.  So a
part is read back from its text in one way only, whatever follows it, and with it the whole
selector: no two selectors share a text form if they differ in a label, a requirement, or their
order.
-/

namespace ChartOperator

namespace Requirement

/-- The values of a set operator; the other operators have none. -/
def setValues (r : Requirement) : List String :=
  if r.operator ∈ ["In", "NotIn"] then r.valueList else []

/-- What a requirement says: its key, its operator, and the values of a set operator. -/
def content (r : Requirement) : String × String × List String :=
  (r.key, r.operator, r.setValues)

/-- Whether a requirement has an unknown operator, or a set operator without values. -/
def IsFaulty (r : Requirement) : Prop :=
  r.operator ∉ ["In", "NotIn", "Exists", "DoesNotExist"] ∨
    r.operator ∈ ["In", "NotIn"] ∧ r.valueList = []

/-- What is reported about a faulty requirement. -/
def fault (r : Requirement) : SelectorError :=
  if r.operator ∈ ["In", "NotIn"] then .noValues r.operator r.key
  else .unknownOperator r.operator r.key

theorem render_eq_error_iff {r : Requirement} {e : SelectorError} :
    r.render = .error e ↔ r.IsFaulty ∧ e = r.fault := by
  rcases r with ⟨key, operator, values⟩
  rw [@eq_comm _ e]
  unfold render IsFaulty fault valueList
  cases values.getD [] with
  | nil =>
      simp only
      split <;> simp_all
  | cons value others =>
      simp only
      split <;> simp_all

/-- A requirement without a fault has a text form. -/
theorem exists_render_eq_ok_iff {r : Requirement} :
    (∃ text, r.render = .ok text) ↔ ¬ r.IsFaulty := by
  cases rendered : r.render with
  | error e => simp [(render_eq_error_iff.mp rendered).1]
  | ok text =>
      have sound : ¬ r.IsFaulty := by
        intro faulty
        rw [render_eq_error_iff.mpr ⟨faulty, rfl⟩] at rendered
        cases rendered
      simp [sound]

/-- Requirements with the same content have the same text form or the same fault. -/
theorem render_congr {r other : Requirement} (same : r.content = other.content) :
    r.render = other.render := by
  rcases r with ⟨key, operator, values⟩
  rcases other with ⟨otherKey, otherOperator, otherValues⟩
  simp only [content, setValues, valueList, Prod.mk.injEq] at same
  rcases same with ⟨rfl, rfl, sameValues⟩
  unfold render valueList
  simp only
  split <;> simp_all

end Requirement

namespace LabelSelector

/-- The labels that a selector requires; none if they are absent. -/
def labels (selector : LabelSelector) : StringMap :=
  selector.matchLabels.getD []

/-- The requirements of a selector; none if they are absent. -/
def requirements (selector : LabelSelector) : List Requirement :=
  selector.matchExpressions.getD []

/-- The characters of the values of labels. -/
def isValueChar (c : Char) : Bool :=
  c.isAlphanum || c == '.' || c == '_' || c == '-'

/-- The characters of the keys of labels. -/
def isKeyChar (c : Char) : Bool :=
  isValueChar c || c == '/'

/-- Whether the keys and values of a selector are texts, be they empty, in the characters of keys
and of values. -/
structure IsPlain (selector : LabelSelector) : Prop where
  labels : ∀ entry ∈ selector.labels,
    entry.1.toList.all isKeyChar = true ∧ entry.2.toList.all isValueChar = true
  requirements : ∀ r ∈ selector.requirements,
    r.key.toList.all isKeyChar = true ∧
      ∀ value ∈ r.setValues, value.toList.all isValueChar = true

/-! ## Reading a part -/

/-- What a part of a selector tells: a label with its value, or the content of a requirement. -/
abbrev PartContent := (String × String) ⊕ (String × String × List String)

/-- What the parts of a selector tell. -/
def contents (selector : LabelSelector) : List PartContent :=
  selector.labels.map Sum.inl ++ selector.requirements.map (Sum.inr ∘ Requirement.content)

/-- Reads the values up to the closing parenthesis. -/
def readValues (cs : List Char) : List String × List Char :=
  (((cs.takeWhile (· ≠ ')')).splitOn ',').map String.ofList, (cs.dropWhile (· ≠ ')')).tail)

/-- Reads the rest of a part behind its key. -/
def readRest (key : String) (cs : List Char) : PartContent × List Char :=
  match cs with
  | '=' :: rest =>
      (.inl (key, String.ofList (rest.takeWhile isValueChar)), rest.dropWhile isValueChar)
  | ' ' :: 'i' :: 'n' :: ' ' :: '(' :: rest =>
      (.inr (key, "In", (readValues rest).1), (readValues rest).2)
  | ' ' :: 'n' :: 'o' :: 't' :: 'i' :: 'n' :: ' ' :: '(' :: rest =>
      (.inr (key, "NotIn", (readValues rest).1), (readValues rest).2)
  | rest => (.inr (key, "Exists", []), rest)

/-- Reads the part with which a text starts. -/
def readPart (cs : List Char) : PartContent × List Char :=
  match cs with
  | '!' :: rest =>
      (.inr (String.ofList (rest.takeWhile isKeyChar), "DoesNotExist", []),
        rest.dropWhile isKeyChar)
  | cs => readRest (String.ofList (cs.takeWhile isKeyChar)) (cs.dropWhile isKeyChar)

/-- Whether a text is read as a part with some content, whatever part follows it. -/
def IsReadAs (text : String) (content : PartContent) : Prop :=
  ∀ rest, (∀ c ∈ rest.head?, c = ',') → readPart (text.toList ++ rest) = (content, rest)

theorem ne_of_isValueChar {c d : Char} (valueChar : isValueChar c = true)
    (sign : isValueChar d = false) : c ≠ d := by
  rintro rfl
  rw [valueChar] at sign
  cases sign

/-- The key of a part is read as a whole, as no character of keys follows it. -/
theorem readPart_key {key : String} {rest : List Char} (plain : key.toList.all isKeyChar = true)
    (ends : ∀ c ∈ rest.head?, isKeyChar c = false ∧ c ≠ '!') :
    readPart (key.toList ++ rest) = readRest key rest := by
  rcases Text.span_append rest (List.all_eq_true.mp plain) fun c first => (ends c first).1 with
    ⟨taken, left⟩
  have noSign : ∀ others, key.toList ++ rest ≠ '!' :: others := by
    intro others same
    cases chars : key.toList with
    | nil =>
        rw [chars, List.nil_append] at same
        exact (ends '!' (by rw [same]; rfl)).2 rfl
    | cons c cs =>
        rw [chars, List.cons_append] at same
        obtain rfl : c = '!' := (List.cons.inj same).1
        rw [chars] at plain
        simp [isKeyChar, isValueChar] at plain
  unfold readPart
  split
  · rename_i others same
    exact absurd same (noSign others)
  · rw [taken, left, String.ofList_toList]

theorem readValues_append {values : List String} (nonempty : values ≠ [])
    (plain : ∀ value ∈ values, value.toList.all isValueChar = true) (rest : List Char) :
    readValues ([','].intercalate (values.map String.toList) ++ ')' :: rest) = (values, rest) := by
  have visible : ∀ piece ∈ values.map String.toList, ∀ c ∈ piece, isValueChar c = true := by
    intro piece mem
    rcases List.mem_map.mp mem with ⟨value, isValue, rfl⟩
    exact List.all_eq_true.mp (plain value isValue)
  have noComma : ∀ piece ∈ values.map String.toList, ',' ∉ piece := by
    intro piece mem comma
    exact ne_of_isValueChar (visible piece mem ',' comma) rfl rfl
  have inside : ∀ c ∈ [','].intercalate (values.map String.toList),
      decide (c ≠ ')') = true := by
    intro c mem
    rw [decide_eq_true_eq]
    rcases Text.eq_or_mem_of_mem_intercalate mem with rfl | ⟨piece, isPiece, inPiece⟩
    · decide
    · exact ne_of_isValueChar (visible piece isPiece c inPiece) rfl
  rcases Text.span_append (')' :: rest) inside (by simp) with ⟨taken, left⟩
  rw [readValues, taken, left, List.splitOn_intercalate ',' noComma (by simpa using nonempty)]
  simp [Function.comp_def]

theorem isReadAs_label {entry : String × String} (key : entry.1.toList.all isKeyChar = true)
    (value : entry.2.toList.all isValueChar = true) :
    IsReadAs (renderLabel entry) (.inl entry) := by
  intro rest ends
  have written : (renderLabel entry).toList ++ rest =
      entry.1.toList ++ '=' :: (entry.2.toList ++ rest) := by
    simp [renderLabel]
  have noValueChar : ∀ c ∈ rest.head?, isValueChar c = false := by
    intro c first
    rw [ends c first]
    rfl
  rcases Text.span_append rest (List.all_eq_true.mp value) noValueChar with ⟨taken, left⟩
  rw [written, readPart_key key (by simp [isKeyChar, isValueChar]), readRest, taken, left,
    String.ofList_toList]

/-- Both set operators are written alike: between the key and the values stands their sign. -/
theorem isReadAs_set {key sign operator : String} {values : List String}
    (plainKey : key.toList.all isKeyChar = true) (nonempty : values ≠ [])
    (plain : ∀ value ∈ values, value.toList.all isValueChar = true)
    (spaced : sign.toList.head? = some ' ')
    (read : ∀ cs, readRest key (sign.toList ++ '(' :: cs) =
      (.inr (key, operator, (readValues cs).1), (readValues cs).2)) :
    IsReadAs (key ++ sign ++ renderValues values) (.inr (key, operator, values)) := by
  intro rest ends
  have written : (key ++ sign ++ renderValues values).toList ++ rest =
      key.toList ++ (sign.toList ++
        '(' :: ([','].intercalate (values.map String.toList) ++ ')' :: rest)) := by
    simp [renderValues]
  rw [written, readPart_key plainKey, read, readValues_append nonempty plain]
  intro c first
  rw [List.head?_append, spaced, Option.some_or] at first
  obtain rfl : ' ' = c := Option.some.inj first
  decide

/-- A requirement with a text form is read from it. -/
theorem isReadAs_requirement {r : Requirement} {text : String} (rendered : r.render = .ok text)
    (key : r.key.toList.all isKeyChar = true)
    (values : ∀ value ∈ r.setValues, value.toList.all isValueChar = true) :
    IsReadAs text (.inr r.content) := by
  rcases r with ⟨name, operator, given⟩
  unfold Requirement.render at rendered
  simp only at rendered key
  split at rendered
  case h_1 =>
    split at rendered
    · cases rendered
    · rename_i nonempty
      obtain rfl := Except.ok.inj rendered
      exact isReadAs_set key (by simpa using nonempty) values rfl fun cs => rfl
  case h_2 =>
    split at rendered
    · cases rendered
    · rename_i nonempty
      obtain rfl := Except.ok.inj rendered
      exact isReadAs_set key (by simpa using nonempty) values rfl fun cs => rfl
  case h_3 =>
    obtain rfl := Except.ok.inj rendered
    intro rest ends
    rw [readPart_key key fun c first => by rw [ends c first]; decide]
    cases rest with
    | nil => rfl
    | cons c rest =>
        obtain rfl : c = ',' := ends c rfl
        rfl
  case h_4 =>
    obtain rfl := Except.ok.inj rendered
    intro rest ends
    have noKeyChar : ∀ c ∈ rest.head?, isKeyChar c = false := by
      intro c first
      rw [ends c first]
      rfl
    rcases Text.span_append rest (List.all_eq_true.mp key) noKeyChar with ⟨taken, left⟩
    have written : ("!" ++ name).toList ++ rest = '!' :: (name.toList ++ rest) := by
      simp
    rw [written, readPart, taken, left, String.ofList_toList]
    rfl
  case h_5 => cases rendered

/-! ## Reading a selector -/

/-- What stands behind the first of some texts that are put together. -/
def following (texts : List String) : List Char :=
  texts.flatMap fun text => ',' :: text.toList

theorem toList_intercalate_cons (text : String) (texts : List String) :
    (String.intercalate "," (text :: texts)).toList = text.toList ++ following texts := by
  induction texts generalizing text with
  | nil => simp [following]
  | cons next texts ih =>
      rw [String.intercalate_cons_cons, String.toList_append, ih next]
      simp [following]

theorem head?_following (texts : List String) : ∀ c ∈ (following texts).head?, c = ',' := by
  cases texts with
  | nil => simp [following]
  | cons text texts => simp [following, eq_comm]

section Unique

variable {texts others : List String} {contents otherContents : List PartContent}

/-- By induction on the parts of one text: the first parts are read from the same text, so they are
the same, and the same text is left for the others. -/
theorem eq_of_following_eq (read : List.Forall₂ IsReadAs texts contents)
    (otherRead : List.Forall₂ IsReadAs others otherContents)
    (same : following texts = following others) : contents = otherContents := by
  induction read generalizing others otherContents with
  | nil =>
      cases otherRead with
      | nil => rfl
      | cons first rest => cases same
  | @cons text content texts contents first rest ih =>
      cases otherRead with
      | nil => cases same
      | @cons other otherContent others otherContents otherFirst otherRest =>
          have sameText : text.toList ++ following texts = other.toList ++ following others := by
            simpa [following] using same
          have readFirst := first (following texts) (head?_following texts)
          rw [sameText, otherFirst (following others) (head?_following others)] at readFirst
          rcases Prod.mk.inj readFirst with ⟨sameContent, sameRest⟩
          rw [sameContent, ih otherRest sameRest.symm]

theorem eq_of_intercalate_eq (read : List.Forall₂ IsReadAs texts contents)
    (otherRead : List.Forall₂ IsReadAs others otherContents) (nonempty : texts ≠ [])
    (otherNonempty : others ≠ [])
    (same : String.intercalate "," texts = String.intercalate "," others) :
    contents = otherContents := by
  rcases List.exists_cons_of_ne_nil nonempty with ⟨text, rest, rfl⟩
  rcases List.exists_cons_of_ne_nil otherNonempty with ⟨other, otherRest, rfl⟩
  apply eq_of_following_eq read otherRead
  have sameText := congrArg String.toList same
  rw [toList_intercalate_cons, toList_intercalate_cons] at sameText
  exact congrArg (',' :: ·) sameText

end Unique

variable {selector other : LabelSelector}

theorem renderParts_eq_ok_iff {texts : List String} :
    selector.renderParts = .ok texts ↔
      ∃ rest, List.Forall₂ (fun r text => r.render = .ok text) selector.requirements rest ∧
        texts = selector.labels.map renderLabel ++ rest := by
  simp only [renderParts, bind_eq_ok_iff, ← mapM_eq_ok_iff, Except.ok.injEq, labels, requirements,
    @eq_comm _ texts]

theorem render_eq_ok_iff {rendered : Option String} :
    selector.render = .ok rendered ↔
      ∃ texts, selector.renderParts = .ok texts ∧
        rendered = if texts.isEmpty then none else some (String.intercalate "," texts) := by
  simp only [render, bind_eq_ok_iff, Except.ok.injEq, @eq_comm _ rendered]

theorem render_eq_error_iff {e : SelectorError} :
    selector.render = .error e ↔ selector.requirements.mapM Requirement.render = .error e := by
  simp [render, renderParts, bind_eq_error_iff, requirements]

theorem forall₂_isReadAs_requirements {rs : List Requirement} {texts : List String}
    (each : List.Forall₂ (fun r text => r.render = .ok text) rs texts)
    (plain : ∀ r ∈ rs, r.key.toList.all isKeyChar = true ∧
      ∀ value ∈ r.setValues, value.toList.all isValueChar = true) :
    List.Forall₂ IsReadAs texts (rs.map (Sum.inr ∘ Requirement.content)) := by
  induction each with
  | nil => exact List.Forall₂.nil
  | cons rendered _ ih =>
      rcases List.forall_mem_cons.mp plain with ⟨⟨key, values⟩, others⟩
      exact List.Forall₂.cons (isReadAs_requirement rendered key values) (ih others)

/-- The parts of a plain selector are read from their texts. -/
theorem IsPlain.forall₂_isReadAs {texts : List String} (plain : selector.IsPlain)
    (rendered : selector.renderParts = .ok texts) :
    List.Forall₂ IsReadAs texts selector.contents := by
  rcases renderParts_eq_ok_iff.mp rendered with ⟨rest, each, rfl⟩
  apply List.rel_append
  · rw [List.forall₂_map_left_iff, List.forall₂_map_right_iff, List.forall₂_same]
    intro entry mem
    exact isReadAs_label (plain.labels entry mem).1 (plain.labels entry mem).2
  · exact forall₂_isReadAs_requirements each plain.requirements

theorem contents_eq_iff :
    other.contents = selector.contents ↔
      other.labels = selector.labels ∧
        other.requirements.map Requirement.content =
          selector.requirements.map Requirement.content := by
  constructor
  · intro same
    have left := congrArg (List.filterMap Sum.getLeft?) same
    have right := congrArg (List.filterMap Sum.getRight?) same
    simp [contents, List.filterMap_map, Function.comp_def] at left right
    exact ⟨left, right⟩
  · rintro ⟨labels, requirements⟩
    rw [contents, contents, ← List.map_map, ← List.map_map, labels, requirements]

/-- Plain selectors with the same text form tell the same. -/
theorem IsPlain.contents_eq_of_render_eq {rendered : Option String} (plain : selector.IsPlain)
    (otherPlain : other.IsPlain) (isText : selector.render = .ok rendered)
    (otherText : other.render = .ok rendered) : other.contents = selector.contents := by
  rcases render_eq_ok_iff.mp isText with ⟨texts, parts, rfl⟩
  rcases render_eq_ok_iff.mp otherText with ⟨others, otherParts, same⟩
  have read := plain.forall₂_isReadAs parts
  have otherRead := otherPlain.forall₂_isReadAs otherParts
  cases texts with
  | nil =>
      cases others with
      | nil =>
          rw [List.forall₂_nil_left_iff.mp read, List.forall₂_nil_left_iff.mp otherRead]
      | cons text rest => cases same
  | cons text rest =>
      cases others with
      | nil => cases same
      | cons other otherRest =>
          exact eq_of_intercalate_eq otherRead read (by simp) (by simp)
            (Option.some.inj same).symm

theorem mapM_render_congr {rs others : List Requirement}
    (same : rs.map Requirement.content = others.map Requirement.content) :
    rs.mapM Requirement.render = others.mapM Requirement.render := by
  induction rs generalizing others with
  | nil =>
      rw [List.map_nil, eq_comm, List.map_eq_nil_iff] at same
      rw [same]
  | cons r rs ih =>
      cases others with
      | nil => cases same
      | cons other others =>
          rcases List.cons.inj same with ⟨first, rest⟩
          rw [List.mapM_cons, List.mapM_cons, Requirement.render_congr first, ih rest]

/-- Selectors that tell the same have the same text form or the same fault. -/
theorem render_congr (same : other.contents = selector.contents) :
    other.render = selector.render := by
  rcases contents_eq_iff.mp same with ⟨sameLabels, sameRequirements⟩
  have rendered := mapM_render_congr sameRequirements
  unfold labels at sameLabels
  unfold requirements at rendered
  rw [render, render, renderParts, renderParts, sameLabels, rendered]

theorem render_eq_ok_none_iff :
    selector.render = .ok none ↔ selector.labels = [] ∧ selector.requirements = [] := by
  rw [render_eq_ok_iff]
  constructor
  · rintro ⟨texts, parts, noText⟩
    rcases renderParts_eq_ok_iff.mp parts with ⟨rest, each, rfl⟩
    have empty : selector.labels.map renderLabel ++ rest = [] := by
      simpa using noText
    rcases List.append_eq_nil_iff.mp empty with ⟨noLabels, rfl⟩
    exact ⟨List.map_eq_nil_iff.mp noLabels, List.forall₂_nil_right_iff.mp each⟩
  · rintro ⟨noLabels, noRequirements⟩
    refine ⟨[], renderParts_eq_ok_iff.mpr ⟨[], ?_, ?_⟩, rfl⟩
    · rw [noRequirements]
      exact List.Forall₂.nil
    · rw [noLabels]
      rfl

/-- A selector has a text form unless some requirement is faulty, and the first such requirement is
reported.  There is nothing to write exactly if there are no labels and no requirements.  Two plain
selectors have the same text form exactly if they have the same labels and the contents of their
requirements are the same, in the same order. -/
theorem render_outcome (selector : LabelSelector) :
    (∀ e, selector.render = .error e ↔
      ∃ before r after, selector.requirements = before ++ r :: after ∧
        (∀ earlier ∈ before, ¬ earlier.IsFaulty) ∧ r.IsFaulty ∧ e = r.fault) ∧
    ((∃ e, selector.render = .error e) ↔ ∃ r ∈ selector.requirements, r.IsFaulty) ∧
    (selector.render = .ok none ↔ selector.labels = [] ∧ selector.requirements = []) ∧
    ∀ (other : LabelSelector) rendered, selector.IsPlain → other.IsPlain →
      selector.render = .ok rendered →
      (other.render = .ok rendered ↔
        other.labels = selector.labels ∧
          other.requirements.map Requirement.content =
            selector.requirements.map Requirement.content) := by
  have firstFault : ∀ e, selector.render = .error e ↔
      ∃ before r after, selector.requirements = before ++ r :: after ∧
        (∀ earlier ∈ before, ¬ earlier.IsFaulty) ∧ r.IsFaulty ∧ e = r.fault := by
    intro e
    simp only [render_eq_error_iff, mapM_eq_error_iff, Requirement.exists_render_eq_ok_iff,
      Requirement.render_eq_error_iff]
  refine ⟨firstFault, ?_, render_eq_ok_none_iff, ?_⟩
  · constructor
    · rintro ⟨e, failed⟩
      rcases (firstFault e).mp failed with ⟨before, r, after, whole, -, faulty, -⟩
      exact ⟨r, by simp [whole], faulty⟩
    · rintro ⟨r, mem, faulty⟩
      cases rendered : selector.render with
      | error e => exact ⟨e, rfl⟩
      | ok text =>
          rcases render_eq_ok_iff.mp rendered with ⟨texts, parts, -⟩
          rcases renderParts_eq_ok_iff.mp parts with ⟨rest, each, -⟩
          have sound := exists_mapM_eq_ok_iff.mp ⟨rest, mapM_eq_ok_iff.mpr each⟩ r mem
          exact absurd faulty (Requirement.exists_render_eq_ok_iff.mp sound)
  · intro other rendered plain otherPlain isText
    rw [← contents_eq_iff]
    constructor
    · exact plain.contents_eq_of_render_eq otherPlain isText
    · intro same
      rw [render_congr same, isText]

/-- A selector with an empty label value, and a set with an empty value. -/
def exampleSelector : LabelSelector where
  matchLabels := some [("app", "web"), ("tier", "")]
  matchExpressions := some [⟨"env", "In", some ["", "prod"]⟩, ⟨"site/old", "DoesNotExist", none⟩]

/-- The same selector with values for an operator that has none. -/
def exampleVariant : LabelSelector where
  matchLabels := some [("app", "web"), ("tier", "")]
  matchExpressions :=
    some [⟨"env", "In", some ["", "prod"]⟩, ⟨"site/old", "DoesNotExist", some ["(,)"]⟩]

theorem render_outcome_exampleSelector :
    exampleSelector.IsPlain ∧ exampleVariant.IsPlain ∧
      exampleSelector.render = .ok (some "app=web,tier=,env in (,prod),!site/old") ∧
      exampleVariant.render = .ok (some "app=web,tier=,env in (,prod),!site/old") ∧
      exampleVariant.labels = exampleSelector.labels ∧
      exampleVariant.requirements.map Requirement.content =
        exampleSelector.requirements.map Requirement.content := by
  have plain : exampleSelector.IsPlain := ⟨by decide +kernel, by decide +kernel⟩
  have variantPlain : exampleVariant.IsPlain := ⟨by decide +kernel, by decide +kernel⟩
  have rendered :
      exampleSelector.render = .ok (some "app=web,tier=,env in (,prod),!site/old") := by
    rfl
  have variantRendered :
      exampleVariant.render = .ok (some "app=web,tier=,env in (,prod),!site/old") := by
    rfl
  have unique := (render_outcome exampleSelector).2.2.2 exampleVariant _ plain variantPlain rendered
  exact ⟨plain, variantPlain, rendered, variantRendered, unique.mp variantRendered⟩

end LabelSelector

end ChartOperator
