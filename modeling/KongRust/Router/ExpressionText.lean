import KongRust.Router.Expressions

/-!
# The text of an expression

An expression tree, the text it is written as, and the boolean value it has on a request.
`parseExpression` has to give the text of a tree the tree's own value. The parser looks for
operators by their text: it knows no negation and no operator on the start of a field, and
where a value contains the text of an operator that is tried before the one of its
condition, the text is cut inside the value. `Plain` says which trees are read as written.
-/

namespace KongRust.Router.Expressions

open KongRust.Text

/-! ## Trees -/

/-- A comparison of a field of the request with quoted values. -/
inductive Condition where
  | eq (field : Field) (value : String)
  | ne (field : Field) (value : String)
  | regex (field : Field) (pattern : String)
  | isIn (field : Field) (values : List String)
  | notIn (field : Field) (values : List String)
  | startsWith (field : Field) (value : String)

inductive Expression where
  | compare (condition : Condition)
  | and (a b : Expression)
  | or (a b : Expression)
  | not (a : Expression)
  | paren (a : Expression)

def Field.canonical (S : TextServices) : Field → Field
  | .httpHeader name => .httpHeader (S.toLowercase name)
  | field => field

def Condition.holds (S : TextServices) (ctx : RequestContext) : Condition → Bool
  | .eq field value => getFieldValue (field.canonical S) ctx == some value
  | .ne field value => getFieldValue (field.canonical S) ctx != some value
  | .regex field pattern =>
    match S.compile pattern with
    | .ok compiled => (getFieldValue (field.canonical S) ctx).any fun v => S.isMatch compiled v
    | .error _ => false
  | .isIn field values =>
    (getFieldValue (field.canonical S) ctx).any fun v => values.contains v
  | .notIn field values =>
    !(getFieldValue (field.canonical S) ctx).any fun v => values.contains v
  | .startsWith field value =>
    (getFieldValue (field.canonical S) ctx).any fun v => Text.startsWith v value

def Expression.holds (S : TextServices) (ctx : RequestContext) : Expression → Bool
  | .compare condition => condition.holds S ctx
  | .and a b => a.holds S ctx && b.holds S ctx
  | .or a b => a.holds S ctx || b.holds S ctx
  | .not a => !a.holds S ctx
  | .paren a => a.holds S ctx

/-! ## Their text -/

def Field.text : Field → List Char
  | .httpMethod => "http.method".toList
  | .httpHost => "http.host".toList
  | .httpPath => "http.path".toList
  | .httpHeader name => "http.headers.".toList ++ name.toList
  | .netProtocol => "net.protocol".toList
  | .tlsSni => "tls.sni".toList

def quoted (value : String) : List Char := '"' :: (value.toList ++ ['"'])

def listed : List String → List Char
  | [] => []
  | [value] => quoted value
  | value :: values => quoted value ++ ',' :: ' ' :: listed values

def Condition.text : Condition → List Char
  | .eq field value => field.text ++ ' ' :: (Comparison.eq.text ++ ' ' :: quoted value)
  | .ne field value => field.text ++ ' ' :: (Comparison.ne.text ++ ' ' :: quoted value)
  | .regex field pattern => field.text ++ ' ' :: (Comparison.regex.text ++ ' ' :: quoted pattern)
  | .isIn field values => field.text ++ (" in ".toList ++ listed values)
  | .notIn field values => field.text ++ (" not in ".toList ++ listed values)
  | .startsWith field value => field.text ++ (" ^= ".toList ++ quoted value)

def enclose (text : List Char) : List Char := '(' :: (text ++ [')'])

def Expression.isOr : Expression → Bool
  | .or _ _ => true
  | _ => false

def Expression.isAnd : Expression → Bool
  | .and _ _ => true
  | _ => false

/-- A part of an expression, enclosed where it binds less tightly than its place. -/
def enclosedIf (loose : Bool) (text : List Char) : List Char :=
  if loose then enclose text else text

/-- Both connectives group to the right: the parser cuts at the first one. -/
def Expression.text : Expression → List Char
  | .compare condition => condition.text
  | .and a b =>
    enclosedIf (a.isOr || a.isAnd) a.text ++ ' ' :: '&' :: '&' :: ' ' :: enclosedIf b.isOr b.text
  | .or a b => enclosedIf a.isOr a.text ++ ' ' :: '|' :: '|' :: ' ' :: b.text
  | .not a => '!' :: enclose a.text
  | .paren a => enclose a.text

/-! ## The trees that are read as written -/

/-- The characters of a header name: visible ASCII, without quotes, parentheses and the
marks of the comparison operators. -/
def isNameChar (c : Char) : Bool :=
  0x21 ≤ c.toNat && c.toNat ≤ 0x7E && !(['"', '(', ')', '=', '~'].contains c)

def Field.Plain : Field → Prop
  | .httpHeader name => ∀ c ∈ name.toList, isNameChar c = true
  | _ => True

def Condition.field : Condition → Field
  | .eq field _ | .ne field _ | .regex field _ | .isIn field _ | .notIn field _
  | .startsWith field _ => field

def Condition.values : Condition → List String
  | .eq _ value | .ne _ value | .regex _ value | .startsWith _ value => [value]
  | .isIn _ values | .notIn _ values => values

/-- No operator that the parser tries before the one of the condition stands in a value. -/
def Condition.Unambiguous (S : TextServices) : Condition → Prop
  | .eq _ _ => True
  | .ne _ value => ¬ Comparison.eq.text <:+: value.toList
  | .regex _ pattern =>
    ¬ Comparison.eq.text <:+: pattern.toList ∧ ¬ Comparison.ne.text <:+: pattern.toList ∧
      (S.compile pattern).isOk
  | .isIn _ values =>
    values ≠ [] ∧ ∀ value ∈ values, ',' ∉ value.toList ∧
      ∀ op : Comparison, ¬ op.text <:+: value.toList
  | .notIn _ _ => False
  | .startsWith _ _ => False

def Condition.Plain (S : TextServices) (condition : Condition) : Prop :=
  condition.field.Plain ∧ (∀ value ∈ condition.values, '"' ∉ value.toList) ∧
    condition.Unambiguous S

def Expression.values : Expression → List String
  | .compare condition => condition.values
  | .and a b | .or a b => a.values ++ b.values
  | .not a | .paren a => a.values

/-- The parentheses of a text that starts inside `depth` of them. -/
def Balanced : Nat → List Char → Prop
  | depth, [] => depth = 0
  | depth, c :: s =>
    if c = '(' then Balanced (depth + 1) s
    else if c = ')' then 0 < depth ∧ Balanced (depth - 1) s
    else Balanced depth s

instance decidableBalanced : (depth : Nat) → (s : List Char) → Decidable (Balanced depth s)
  | depth, [] => inferInstanceAs (Decidable (depth = 0))
  | depth, c :: s =>
    have := decidableBalanced (depth + 1) s
    have := decidableBalanced (depth - 1) s
    have := decidableBalanced depth s
    inferInstanceAs (Decidable (if c = '(' then Balanced (depth + 1) s
      else if c = ')' then 0 < depth ∧ Balanced (depth - 1) s else Balanced depth s))

/-- Inside parentheses the parser does not see the quotes around a value. -/
def Expression.Nests (e : Expression) : Prop := ∀ value ∈ e.values, Balanced 0 value.toList

def Expression.Plain (S : TextServices) : Expression → Prop
  | .compare condition => condition.Plain S
  | .and a b =>
    a.Plain S ∧ b.Plain S ∧ ((a.isOr || a.isAnd) = true → a.Nests) ∧ (b.isOr = true → b.Nests)
  | .or a b => a.Plain S ∧ b.Plain S ∧ (a.isOr = true → a.Nests)
  | .not _ => False
  | .paren a => a.Plain S ∧ a.Nests

/-! ## The characters of a text -/

variable {c d o : Char} {op a b : List Char} {S : TextServices} {condition : Condition}
  {va vb : RequestContext → Bool}

section

variable (h : isNameChar c = true)
include h

theorem isNameChar_ne (hd : isNameChar d = false) : c ≠ d := by
  rintro rfl
  rw [h] at hd
  cases hd

theorem isNameChar_utf8Size : c.utf8Size = 1 := by
  simp only [isNameChar, Bool.and_eq_true, decide_eq_true_eq] at h
  have hLe : c.val ≤ 0x7F := by
    have hNat : c.toNat ≤ 0x7E := h.1.2
    exact UInt32.le_iff_toNat_le.mpr (Nat.le_trans hNat (by decide))
  simp [Char.utf8Size, hLe]

theorem isNameChar_not_whitespace : isWhitespace c = false := by
  simp only [isNameChar, Bool.and_eq_true, decide_eq_true_eq] at h
  simp only [isWhitespace, Bool.or_eq_false_iff, Bool.and_eq_false_iff, decide_eq_false_iff_not,
    beq_eq_false_iff_ne]
  omega

end

theorem Field.Plain.text {field : Field} (h : field.Plain) :
    ∀ c ∈ field.text, isNameChar c = true := by
  cases field with
  | httpMethod | httpHost | httpPath | netProtocol | tlsSni => exact List.all_eq_true.mp (by decide)
  | httpHeader name =>
    have hLead : ∀ c ∈ "http.headers.".toList, isNameChar c = true :=
      List.all_eq_true.mp (by decide)
    exact List.forall_mem_append.mpr ⟨hLead, h⟩

theorem Field.text_ne_nil (field : Field) : field.text ≠ [] := by
  cases field with
  | httpHeader name => exact List.append_ne_nil_of_left_ne_nil (by decide) _
  | _ => decide

theorem Field.Plain.tight {field : Field} (h : field.Plain) : Tight field.text :=
  ⟨fun c hc => isNameChar_not_whitespace (h.text c (List.mem_of_mem_head? hc)),
    fun c hc => isNameChar_not_whitespace (h.text c (List.mem_of_mem_getLast? hc))⟩

theorem Field.Plain.not_mem {field : Field} (h : field.Plain) (hd : isNameChar d = false) :
    d ∉ field.text :=
  fun hMem => isNameChar_ne (h.text d hMem) hd rfl

theorem Field.Plain.no_operator {field : Field} (h : field.Plain) (op : Comparison) :
    ¬ op.text <:+: field.text := by
  intro hIn
  cases op with
  | eq | ne => exact h.not_mem (d := '=') (by decide) (hIn.subset (by decide))
  | regex => exact h.not_mem (d := '~') (by decide) (hIn.subset (by decide))

theorem quoted_tight (value : String) : Tight (quoted value) :=
  tight_of_ends (by decide) (by decide)

theorem listed_cons_ne_nil (value : String) (values : List String) :
    listed (value :: values) ≠ [] := by
  cases values <;> simp [listed, quoted]

theorem listed_cons_cons (value next : String) (values : List String) :
    listed (value :: next :: values) = quoted value ++ ',' :: ' ' :: listed (next :: values) :=
  rfl

theorem listed_tight (value : String) (values : List String) : Tight (listed (value :: values)) := by
  induction values generalizing value with
  | nil => exact quoted_tight value
  | cons next values ih =>
    exact (quoted_tight value).append (ih next) (by simp [quoted]) (listed_cons_ne_nil _ _)
      [',', ' ']

/-! ## Reading a condition -/

theorem parseField_text (S : TextServices) {field : Field} (h : field.Plain) :
    parseField S field.text = .ok (field.canonical S) := by
  unfold parseField
  rw [h.tight.trim]
  cases field with
  | httpHeader name =>
    have hStrip : stripPrefix "http.headers." (String.ofList (Field.httpHeader name).text) =
        some name := stripPrefix_append "http.headers." name
    have hNe : ∀ other, stripPrefix "http.headers." other = none →
        String.ofList (Field.httpHeader name).text ≠ other := by
      rintro other hOther rfl
      rw [hStrip] at hOther
      cases hOther
    dsimp only
    rw [if_neg (hNe "http.method" (by decide)), if_neg (hNe "http.host" (by decide)),
      if_neg (hNe "http.path" (by decide)), if_neg (hNe "net.protocol" (by decide)),
      if_neg (hNe "tls.sni" (by decide)), hStrip]
    rfl
  | _ => rfl

theorem stripQuotes_quoted (value : String) : stripQuotes (quoted value) = .ok value := by
  unfold stripQuotes
  rw [(quoted_tight value).trim]
  have hSurrounded : surroundedBy '"' (quoted value) = true := by
    unfold surroundedBy quoted
    rw [← List.cons_append, List.getLast?_concat]
    rfl
  have hLength : (quoted value).length ≠ 1 := by simp [quoted]
  dsimp only
  rw [hSurrounded, Bool.true_or, if_pos rfl, if_neg hLength]
  simp [quoted]

theorem locate_here {field : Field} (h : field.Plain) (op : Comparison) (s : List Char) :
    op.locate (field.text ++ ' ' :: (op.text ++ ' ' :: s)) =
      some (field.text ++ [' '], ' ' :: s) := by
  have hFind : find op.text (field.text ++ ' ' :: (op.text ++ ' ' :: s)) =
      some (field.text ++ [' '], ' ' :: s) := by
    rw [find_append_cons (by cases op <;> decide) (h.no_operator op),
      find_self (by cases op <;> decide)]
    rfl
  unfold Comparison.locate
  rw [hFind]
  simp

theorem locate_none {op : Comparison} {s : List Char} (h : ¬ op.text <:+: s) :
    op.locate s = none := by
  unfold Comparison.locate
  rw [find_eq_none_iff.mpr h]

theorem infix_quoted_iff (op : Comparison) (value : String) :
    op.text <:+: quoted value ↔ op.text <:+: value.toList := by
  have hQuote : '"' ∉ op.text := by cases op <;> decide
  have hEmpty : ¬ op.text <:+: [] := by cases op <;> decide
  have hCut := infix_append_cons_iff (a := []) hQuote (value.toList ++ ['"'])
  rw [List.nil_append, infix_append_cons_iff hQuote []] at hCut
  simpa [quoted, hEmpty] using hCut

theorem infix_compared_iff {field : Field} (h : field.Plain) (op used : Comparison)
    (value : String) :
    op.text <:+: field.text ++ ' ' :: (used.text ++ ' ' :: quoted value) ↔
      op.text <:+: used.text ∨ op.text <:+: value.toList := by
  have hSpace : ' ' ∉ op.text := by cases op <;> decide
  rw [infix_append_cons_iff hSpace, infix_append_cons_iff hSpace, infix_quoted_iff]
  exact or_iff_right (h.no_operator op)

theorem infix_listed {op : Comparison} {values : List String}
    (h : ∀ value ∈ values, ¬ op.text <:+: value.toList) : ¬ op.text <:+: listed values := by
  have hSpace : ' ' ∉ op.text := by cases op <;> decide
  have hComma : ',' ∉ op.text := by cases op <;> decide
  have hEmpty : ¬ op.text <:+: [] := by cases op <;> decide
  induction values with
  | nil => exact hEmpty
  | cons value values ih =>
    have hValue : ¬ op.text <:+: quoted value :=
      fun hIn => h value List.mem_cons_self ((infix_quoted_iff op value).mp hIn)
    cases values with
    | nil => exact hValue
    | cons next values =>
      have hRest := ih fun other hOther => h other (List.mem_cons_of_mem value hOther)
      have hBlank := infix_append_cons_iff (a := []) hSpace (listed (next :: values))
      rw [listed_cons_cons, infix_append_cons_iff hComma, not_or]
      exact ⟨hValue, fun hIn => (hBlank.mp hIn).elim hEmpty hRest⟩

theorem read_value (value : String) : stripQuotes (trim (quoted value)) = .ok value ∧
      stripQuotes (trim (' ' :: quoted value)) = .ok value := by
  rw [(quoted_tight value).trim, (quoted_tight value).trim_space_cons, stripQuotes_quoted]
  exact ⟨rfl, rfl⟩

variable {value : String}

theorem parseValues_pieces {values : List String}
    (h : ∀ other ∈ value :: values, ',' ∉ other.toList) :
    (split ',' (listed (value :: values))).mapM (fun piece => stripQuotes (trim piece)) =
        .ok (value :: values) ∧
      (split ',' (' ' :: listed (value :: values))).mapM (fun piece => stripQuotes (trim piece)) =
        .ok (value :: values) := by
  induction values generalizing value with
  | nil =>
    have hQuoted : ',' ∉ quoted value := by simpa [quoted] using h value List.mem_cons_self
    have hSpaced : ',' ∉ ' ' :: quoted value := by simpa using hQuoted
    obtain ⟨hRead, hReadSpaced⟩ := read_value value
    rw [listed, split_of_not_mem hQuoted, split_of_not_mem hSpaced, List.mapM_cons,
      List.mapM_cons, hRead, hReadSpaced]
    exact ⟨rfl, rfl⟩
  | cons next values ih =>
    have hQuoted : ',' ∉ quoted value := by simpa [quoted] using h value List.mem_cons_self
    have hSpaced : ',' ∉ ' ' :: quoted value := by simpa using hQuoted
    obtain ⟨hRead, hReadSpaced⟩ := read_value value
    have hNext := (ih fun other hOther => h other (List.mem_cons_of_mem value hOther)).2
    rw [listed_cons_cons, split_append hQuoted, ← List.cons_append, split_append hSpaced,
      List.mapM_cons, List.mapM_cons, hRead, hReadSpaced, hNext]
    exact ⟨rfl, rfl⟩

theorem parseValues_listed {values : List String} (hNe : values ≠ [])
    (h : ∀ value ∈ values, ',' ∉ value.toList) : parseValues (listed values) = .ok values := by
  obtain ⟨value, values, rfl⟩ := List.exists_cons_of_ne_nil hNe
  unfold parseValues
  rw [(listed_tight value values).trim]
  exact (parseValues_pieces h).1

theorem compared_tight {field : Field} (h : field.Plain) (op : Comparison) (value : String) :
    Tight (field.text ++ ' ' :: (op.text ++ ' ' :: quoted value)) := by
  have hEnds := h.tight.append (quoted_tight value) field.text_ne_nil (by simp [quoted])
    (' ' :: (op.text ++ [' ']))
  simpa using hEnds

theorem parseCompared_text (S : TextServices) {field : Field} (h : field.Plain)
    (op : Comparison) (value : String) :
    parseCompared S op (field.text ++ [' ']) (' ' :: quoted value) =
      match op with
      | .eq => .ok (.eq (field.canonical S) value)
      | .ne => .ok (.ne (field.canonical S) value)
      | .regex =>
        match S.compile value with
        | .ok regex => .ok (.regex (field.canonical S) regex)
        | .error e => .error (.error ("无效的正则表达式: " ++ e)) := by
  unfold parseCompared
  rw [h.tight.trim_append_space field.text_ne_nil, parseField_text S h, (read_value value).2]
  rfl

theorem parse_condition (S : TextServices) {condition : Condition} (h : condition.Plain S) :
    ∃ c, parseComparison S condition.text = .ok c ∧
      ∀ ctx, evaluate S c ctx = condition.holds S ctx := by
  obtain ⟨hField, -, hFree⟩ := h
  unfold parseComparison
  cases condition with
  | eq field value =>
    refine ⟨.eq (field.canonical S) value, ?_, fun ctx => rfl⟩
    replace hField : field.Plain := hField
    dsimp only [Condition.text]
    rw [(compared_tight hField .eq value).trim, List.findSome?_cons, locate_here hField]
    exact parseCompared_text S hField .eq value
  | ne field value =>
    refine ⟨.ne (field.canonical S) value, ?_, fun ctx => rfl⟩
    replace hField : field.Plain := hField
    have hEq : Comparison.eq.locate (Condition.ne field value).text = none :=
      locate_none fun hIn => ((infix_compared_iff hField .eq .ne value).mp hIn).elim
        (by decide) hFree
    dsimp only [Condition.text] at hEq ⊢
    rw [(compared_tight hField .ne value).trim, List.findSome?_cons, hEq, Option.map_none,
      List.findSome?_cons, locate_here hField]
    exact parseCompared_text S hField .ne value
  | regex field pattern =>
    replace hField : field.Plain := hField
    obtain ⟨hNoEq, hNoNe, hOk⟩ := hFree
    have hNone : ∀ op : Comparison, ¬ op.text <:+: Comparison.regex.text →
        ¬ op.text <:+: pattern.toList → op.locate (Condition.regex field pattern).text = none :=
      fun op hUsed hPattern => locate_none fun hIn =>
        ((infix_compared_iff hField op .regex pattern).mp hIn).elim hUsed hPattern
    have hEq := hNone .eq (by decide) hNoEq
    have hNe := hNone .ne (by decide) hNoNe
    cases hCompiled : S.compile pattern with
    | error e => simp [hCompiled, Except.isOk, Except.toBool] at hOk
    | ok regex =>
      refine ⟨.regex (field.canonical S) regex, ?_, fun ctx => ?_⟩
      · dsimp only [Condition.text] at hEq hNe ⊢
        rw [(compared_tight hField .regex pattern).trim, List.findSome?_cons, hEq,
          Option.map_none, List.findSome?_cons, hNe, Option.map_none, List.findSome?_cons,
          locate_here hField]
        refine (parseCompared_text S hField .regex pattern).trans ?_
        rw [hCompiled]
      · rw [Condition.holds, hCompiled]
        rfl
  | isIn field values =>
    replace hField : field.Plain := hField
    obtain ⟨hNonempty, hValues⟩ := hFree
    obtain ⟨value, rest, rfl⟩ := List.exists_cons_of_ne_nil hNonempty
    refine ⟨.isIn (field.canonical S) (value :: rest), ?_, fun ctx => rfl⟩
    have hNone : ∀ op : Comparison,
        op.locate (Condition.isIn field (value :: rest)).text = none := by
      intro op
      have hSpace : ' ' ∉ op.text := by cases op <;> decide
      have hEmpty : ¬ op.text <:+: [] := by cases op <;> decide
      have hWord : ¬ op.text <:+: ['i', 'n'] := by cases op <;> decide
      have hList := infix_listed fun other hOther => (hValues other hOther).2 op
      refine locate_none fun hIn => ?_
      rcases (infix_append_cons_iff hSpace _).mp hIn with hName | hIn
      · exact hField.no_operator op hName
      · rcases (infix_append_cons_iff (a := ['i', 'n']) hSpace _).mp hIn with hWord' | hIn
        · exact hWord hWord'
        · exact hList hIn
    have hTight : Tight (Condition.isIn field (value :: rest)).text :=
      hField.tight.append (listed_tight value rest) field.text_ne_nil
        (listed_cons_ne_nil value rest) _
    have hFind : find " in ".toList (Condition.isIn field (value :: rest)).text =
        some (field.text, listed (value :: rest)) :=
      find_append_of_head (hField.not_mem (by decide)) _
    dsimp only
    rw [hTight.trim, List.findSome?_cons, hNone, Option.map_none, List.findSome?_cons, hNone,
      Option.map_none, List.findSome?_cons, hNone, Option.map_none, List.findSome?_nil, hFind]
    dsimp only
    rw [hField.tight.trim, parseField_text S hField,
      parseValues_listed (List.cons_ne_nil _ _) fun other hOther => (hValues other hOther).1]
    rfl
  | notIn field values | startsWith field value => exact hFree.elim

/-! ## What the search for a connective reads over -/

/-- Outside quotes and parentheses, the search for an operator goes over the text. -/
def ReadOver (op text : List Char) : Prop :=
  ∀ before rest, findOperatorFrom op 0 false before (text ++ rest) =
    findOperatorFrom op 0 false (before ++ text) rest

theorem ReadOver.append (ha : ReadOver op a) (hb : ReadOver op b) : ReadOver op (a ++ b) := by
  intro before rest
  rw [List.append_assoc, ha, hb, List.append_assoc]

theorem ReadOver.findOperator {text : List Char} (h : ReadOver op text) :
    findOperator text op = .ok none := by
  have hAll := h [] []
  rw [List.append_nil, List.nil_append] at hAll
  exact hAll

theorem readOver_char (hOp : c ≠ o) (hSize : c.utf8Size = 1) (hMarks : c ∉ ['"', '(', ')']) :
    ReadOver (o :: op) [c] := by
  intro before rest
  simp only [List.mem_cons, List.not_mem_nil, or_false, not_or] at hMarks
  rw [List.singleton_append, findOperatorFrom]
  simp [hMarks, Ne.symm hOp, hSize, List.isPrefixOf]

theorem readOver_chars {o : Char} {op text : List Char}
    (h : ∀ c ∈ text, c ≠ o ∧ c.utf8Size = 1 ∧ c ∉ ['"', '(', ')']) :
    ReadOver (o :: op) text := by
  induction text with
  | nil => exact fun before rest => by rw [List.nil_append, List.append_nil]
  | cons c text ih =>
    obtain ⟨hOp, hSize, hMarks⟩ := h c List.mem_cons_self
    exact (readOver_char hOp hSize hMarks).append (ih fun d hd => h d (List.mem_cons_of_mem c hd))

variable {word : List Char}

theorem findOperatorFrom_word {op : List Char} (h : ∀ c ∈ word, isNameChar c = true)
    {before : List Char} (hLast : ∃ d, before.getLast? = some d ∧ d ≠ ' ') (rest : List Char) :
    findOperatorFrom op 0 false before (word ++ rest) =
      findOperatorFrom op 0 false (before ++ word) rest := by
  induction word generalizing before with
  | nil => rw [List.nil_append, List.append_nil]
  | cons c word ih =>
    have hc := h c List.mem_cons_self
    obtain ⟨d, hd, hSpace⟩ := hLast
    have hNonempty : before ≠ [] := by
      rintro rfl
      cases hd
    have hStep : findOperatorFrom op 0 false before (c :: (word ++ rest)) =
        findOperatorFrom op 0 false (before ++ [c]) (word ++ rest) := by
      rw [findOperatorFrom]
      simp [isNameChar_ne hc (d := '"') (by decide), isNameChar_ne hc (d := '(') (by decide),
        isNameChar_ne hc (d := ')') (by decide), isNameChar_utf8Size hc, hd, hSpace, hNonempty]
    rw [List.cons_append, hStep, ih (fun e he => h e (List.mem_cons_of_mem c he))
      ⟨c, List.getLast?_concat, isNameChar_ne hc (by decide)⟩, List.append_assoc,
      List.singleton_append]

theorem readOver_word (h : ∀ d ∈ c :: word, isNameChar d = true) (hOp : c ≠ o) :
    ReadOver (o :: op) (c :: word) := by
  intro before rest
  have hc := h c List.mem_cons_self
  have hMarks : c ∉ ['"', '(', ')'] := by
    simp [isNameChar_ne hc (d := '"') (by decide), isNameChar_ne hc (d := '(') (by decide),
      isNameChar_ne hc (d := ')') (by decide)]
  have hChar : ReadOver (o :: op) [c] := readOver_char hOp (isNameChar_utf8Size hc) hMarks
  have hFirst := hChar before (word ++ rest)
  rw [List.singleton_append] at hFirst
  rw [List.cons_append, hFirst, findOperatorFrom_word (fun d hd => h d (List.mem_cons_of_mem c hd))
    ⟨c, List.getLast?_concat, isNameChar_ne hc (by decide)⟩, List.append_assoc,
    List.singleton_append]

theorem findOperatorFrom_inQuote {op value : List Char} (h : '"' ∉ value)
    (before rest : List Char) :
    findOperatorFrom op 0 true before (value ++ rest) =
      findOperatorFrom op 0 true (before ++ value) rest := by
  induction value generalizing before with
  | nil => rw [List.nil_append, List.append_nil]
  | cons c value ih =>
    have hNe : c ≠ '"' := fun hEq => h (hEq ▸ List.mem_cons_self)
    rw [List.cons_append, findOperatorFrom]
    simp only [hNe, false_and, Bool.not_true, Bool.false_eq_true, and_false, if_false]
    rw [ih fun hMem => h (List.mem_cons_of_mem c hMem), List.append_assoc, List.singleton_append]

theorem readOver_quoted (h : '"' ∉ value.toList) (op : List Char) : ReadOver op (quoted value) := by
  intro before rest
  have hOpen : findOperatorFrom op 0 false before (quoted value ++ rest) =
      findOperatorFrom op 0 true (before ++ ['"']) (value.toList ++ '"' :: rest) := by
    rw [quoted, List.cons_append, findOperatorFrom]
    simp
  have hClose : findOperatorFrom op 0 true (before ++ ['"'] ++ value.toList) ('"' :: rest) =
      findOperatorFrom op 0 false (before ++ ['"'] ++ value.toList ++ ['"']) rest := by
    rw [findOperatorFrom]
    simp
  rw [hOpen, findOperatorFrom_inQuote h, hClose]
  simp [quoted]

theorem readOver_listed {o : Char} (hComma : ',' ≠ o) (hSpace : ' ' ≠ o) {values : List String}
    (h : ∀ value ∈ values, '"' ∉ value.toList) (op : List Char) :
    ReadOver (o :: op) (listed values) := by
  induction values with
  | nil => exact readOver_chars fun c hc => absurd hc (List.not_mem_nil)
  | cons value values ih =>
    have hValue := readOver_quoted (h value List.mem_cons_self) (o :: op)
    cases values with
    | nil => exact hValue
    | cons next values =>
      have hRest := ih fun other hOther => h other (List.mem_cons_of_mem value hOther)
      have hMarks : ReadOver (o :: op) [',', ' '] := readOver_chars fun c hc => by
        rcases List.mem_cons.mp hc with rfl | hc
        · exact ⟨hComma, by decide, by decide⟩
        · rw [List.mem_singleton.mp hc]
          exact ⟨hSpace, by decide, by decide⟩
      exact hValue.append (hMarks.append hRest)

variable {opened : Nat}

theorem findOperatorFrom_nested {op text : List Char} (h : Balanced opened text) {depth : Int}
    (hDepth : 0 < depth) (before rest : List Char) :
    findOperatorFrom op (depth + opened) false before (text ++ rest) =
      findOperatorFrom op depth false (before ++ text) rest := by
  induction text generalizing opened before with
  | nil =>
    have hZero : opened = 0 := h
    rw [hZero, List.nil_append, List.append_nil]
    simp
  | cons c text ih =>
    have hInside : depth + (opened : Int) ≠ 0 := by omega
    have hNext : before ++ [c] ++ text = before ++ c :: text := by simp
    rw [List.cons_append, findOperatorFrom, if_neg fun hQuote => hInside hQuote.2]
    rw [Balanced] at h
    by_cases hOpen : c = '('
    · rw [if_pos hOpen] at h
      have hShift : depth + (opened : Int) + 1 = depth + ((opened + 1 : Nat) : Int) := by
        push_cast
        omega
      rw [if_pos ⟨hOpen, rfl⟩, hShift, ih h, hNext]
    · rw [if_neg hOpen] at h
      rw [if_neg fun hBoth => hOpen hBoth.1]
      by_cases hClose : c = ')'
      · rw [if_pos hClose] at h
        have hShift : depth + (opened : Int) - 1 = depth + ((opened - 1 : Nat) : Int) := by
          have := h.1
          omega
        rw [if_pos ⟨hClose, rfl⟩, hShift, ih h.2, hNext]
      · rw [if_neg hClose] at h
        rw [if_neg fun hBoth => hClose hBoth.1, if_neg fun hBoth => hInside hBoth.2, ih h, hNext]

theorem readOver_enclose {text : List Char} (h : Balanced 0 text) (op : List Char) :
    ReadOver op (enclose text) := by
  intro before rest
  have hOpen : findOperatorFrom op 0 false before (enclose text ++ rest) =
      findOperatorFrom op 1 false (before ++ ['(']) (text ++ ')' :: rest) := by
    rw [enclose, List.cons_append, findOperatorFrom]
    simp
  have hInner : findOperatorFrom op (1 + ((0 : Nat) : Int)) false (before ++ ['('])
      (text ++ ')' :: rest) = _ := findOperatorFrom_nested h (by decide) _ _
  have hClose : findOperatorFrom op 1 false (before ++ ['('] ++ text) (')' :: rest) =
      findOperatorFrom op 0 false (before ++ ['('] ++ text ++ [')']) rest := by
    rw [findOperatorFrom]
    simp
  rw [Int.natCast_zero, Int.add_zero] at hInner
  rw [hOpen, hInner, hClose]
  simp [enclose]

/-! ## Balanced texts -/

theorem Balanced.append {a b : List Char} (ha : Balanced opened a) (hb : Balanced 0 b) :
    Balanced opened (a ++ b) := by
  induction a generalizing opened with
  | nil => exact (show opened = 0 from ha) ▸ hb
  | cons c a ih =>
    rw [Balanced] at ha
    rw [List.cons_append, Balanced]
    split at ha
    · rw [if_pos ‹_›]
      exact ih ha
    · rw [if_neg ‹_›]
      split at ha
      · rw [if_pos ‹_›]
        exact ⟨ha.1, ih ha.2⟩
      · rw [if_neg ‹_›]
        exact ih ha

theorem Balanced.close {opened : Nat} {text : List Char} (h : Balanced opened text) :
    Balanced (opened + 1) (text ++ [')']) := by
  induction text generalizing opened with
  | nil =>
    have hZero : opened = 0 := h
    simp [Balanced, hZero]
  | cons c text ih =>
    rw [Balanced] at h
    rw [List.cons_append, Balanced]
    split at h
    · rw [if_pos ‹_›]
      exact ih h
    · rw [if_neg ‹_›]
      split at h
      · rw [if_pos ‹_›]
        have hBack := ih h.2
        rw [Nat.sub_add_cancel h.1] at hBack
        exact ⟨Nat.succ_pos _, hBack⟩
      · rw [if_neg ‹_›]
        exact ih h

theorem balanced_of_no_marks {text : List Char} (hOpen : '(' ∉ text) (hClose : ')' ∉ text) :
    Balanced 0 text := by
  induction text with
  | nil => exact rfl
  | cons c text ih =>
    rw [List.mem_cons, not_or] at hOpen hClose
    rw [Balanced, if_neg (Ne.symm hOpen.1), if_neg (Ne.symm hClose.1)]
    exact ih hOpen.2 hClose.2

theorem Balanced.enclose {text : List Char} (h : Balanced 0 text) :
    Balanced 0 (enclose text) := by
  rw [Expressions.enclose, Balanced, if_pos rfl]
  exact h.close

theorem balanced_quoted (h : Balanced 0 value.toList) : Balanced 0 (quoted value) := by
  have hQuote : Balanced 0 ['"'] := balanced_of_no_marks (by decide) (by decide)
  exact hQuote.append (h.append hQuote)

theorem balanced_listed {values : List String} (h : ∀ value ∈ values, Balanced 0 value.toList) :
    Balanced 0 (listed values) := by
  induction values with
  | nil => exact rfl
  | cons value values ih =>
    have hValue := balanced_quoted (h value List.mem_cons_self)
    cases values with
    | nil => exact hValue
    | cons next values =>
      have hMarks : Balanced 0 [',', ' '] := balanced_of_no_marks (by decide) (by decide)
      exact hValue.append (hMarks.append (ih fun other hOther =>
        h other (List.mem_cons_of_mem value hOther)))

theorem Field.Plain.balanced {field : Field} (h : field.Plain) : Balanced 0 field.text :=
  balanced_of_no_marks (h.not_mem (by decide)) (h.not_mem (by decide))

theorem Field.Plain.balanced_compared {field : Field} (h : field.Plain) (op : Comparison)
    (hValue : Balanced 0 value.toList) :
    Balanced 0 (field.text ++ ' ' :: (op.text ++ ' ' :: quoted value)) := by
  have hSpace : Balanced 0 [' '] := balanced_of_no_marks (by decide) (by decide)
  have hOp : Balanced 0 op.text := by
    cases op <;> exact balanced_of_no_marks (by decide) (by decide)
  exact h.balanced.append (hSpace.append (hOp.append (hSpace.append (balanced_quoted hValue))))

theorem Condition.Plain.balanced_text {S : TextServices} {condition : Condition}
    (h : condition.Plain S) (hValues : ∀ value ∈ condition.values, Balanced 0 value.toList) :
    Balanced 0 condition.text := by
  obtain ⟨hField, -, hFree⟩ := h
  cases condition with
  | eq field value => exact hField.balanced_compared .eq (hValues value (List.mem_singleton.mpr rfl))
  | ne field value => exact hField.balanced_compared .ne (hValues value (List.mem_singleton.mpr rfl))
  | regex field pattern =>
    exact hField.balanced_compared .regex (hValues pattern (List.mem_singleton.mpr rfl))
  | isIn field values =>
    have hWord : Balanced 0 " in ".toList := balanced_of_no_marks (by decide) (by decide)
    exact hField.balanced.append (hWord.append (balanced_listed hValues))
  | notIn field values | startsWith field value => exact hFree.elim

theorem balanced_enclosedIf {text : List Char} (h : Balanced 0 text) (loose : Bool) :
    Balanced 0 (enclosedIf loose text) := by
  cases loose with
  | false => exact h
  | true => exact h.enclose

theorem Expression.Nests.left {a b : Expression} (h : ∀ value ∈ a.values ++ b.values,
    Balanced 0 value.toList) : a.Nests :=
  fun value hValue => h value (List.mem_append_left _ hValue)

theorem Expression.Nests.right {a b : Expression} (h : ∀ value ∈ a.values ++ b.values,
    Balanced 0 value.toList) : b.Nests :=
  fun value hValue => h value (List.mem_append_right _ hValue)

variable {e : Expression}

theorem Expression.Plain.balanced_text {S : TextServices} (h : e.Plain S) (hNests : e.Nests) :
    Balanced 0 e.text := by
  induction e with
  | compare condition => exact Condition.Plain.balanced_text h hNests
  | and a b iha ihb =>
    have hMarks : Balanced 0 [' ', '&', '&', ' '] := balanced_of_no_marks (by decide) (by decide)
    exact (balanced_enclosedIf (iha h.1 (Nests.left hNests)) _).append
      (hMarks.append (balanced_enclosedIf (ihb h.2.1 (Nests.right hNests)) _))
  | or a b iha ihb =>
    have hMarks : Balanced 0 [' ', '|', '|', ' '] := balanced_of_no_marks (by decide) (by decide)
    exact (balanced_enclosedIf (iha h.1 (Nests.left hNests)) _).append
      (hMarks.append (ihb h.2.1 (Nests.right hNests)))
  | not a => exact h.elim
  | paren a ih => exact (ih h.1 hNests).enclose

/-! ## Connectives between the parts of an expression -/

theorem Field.Plain.readOver {field : Field} (h : field.Plain) {o : Char}
    (ho : o ∉ ['h', 'n', 't']) (op : List Char) : ReadOver (o :: op) field.text := by
  simp only [List.mem_cons, List.not_mem_nil, or_false, not_or] at ho
  have hWord := h.text
  cases field with
  | tlsSni => exact readOver_word hWord (Ne.symm ho.2.2)
  | netProtocol => exact readOver_word hWord (Ne.symm ho.2.1)
  | _ => exact readOver_word hWord (Ne.symm ho.1)

theorem readOver_of_all (ho : o = '|' ∨ o = '&') {text : List Char}
    (h : text.all (fun c => c != '|' && c != '&' && c.utf8Size == 1 &&
      !(['"', '(', ')'].contains c)) = true) (op : List Char) : ReadOver (o :: op) text := by
  refine readOver_chars fun c hc => ?_
  have hAll := List.all_eq_true.mp h c hc
  simp only [Bool.and_eq_true, bne_iff_ne, beq_iff_eq, Bool.not_eq_true', List.contains_eq_mem,
    decide_eq_false_iff_not] at hAll
  obtain ⟨⟨⟨hBar, hAmp⟩, hSize⟩, hMarks⟩ := hAll
  refine ⟨?_, hSize, hMarks⟩
  rcases ho with rfl | rfl
  · exact hBar
  · exact hAmp

theorem Field.Plain.readOver_compared {field : Field} (h : field.Plain) (ho : o = '|' ∨ o = '&')
    (used : Comparison) (hValue : '"' ∉ value.toList) (op : List Char) :
    ReadOver (o :: op) (field.text ++ ' ' :: (used.text ++ ' ' :: quoted value)) := by
  have hField : ReadOver (o :: op) field.text :=
    h.readOver (by rcases ho with rfl | rfl <;> decide) op
  have hMarks : ReadOver (o :: op) (' ' :: used.text ++ [' ']) :=
    readOver_of_all ho (by cases used <;> decide) op
  have hAll := hField.append (hMarks.append (readOver_quoted hValue (o :: op)))
  simpa using hAll

theorem Condition.Plain.readOver {S : TextServices} {condition : Condition}
    (h : condition.Plain S) {o : Char} (ho : o = '|' ∨ o = '&') (op : List Char) :
    ReadOver (o :: op) condition.text := by
  obtain ⟨hField, hValues, hFree⟩ := h
  cases condition with
  | eq field value =>
    exact hField.readOver_compared ho .eq (hValues value (List.mem_singleton.mpr rfl)) op
  | ne field value =>
    exact hField.readOver_compared ho .ne (hValues value (List.mem_singleton.mpr rfl)) op
  | regex field pattern =>
    exact hField.readOver_compared ho .regex (hValues pattern (List.mem_singleton.mpr rfl)) op
  | isIn field values =>
    have hField : ReadOver (o :: op) field.text :=
      hField.readOver (by rcases ho with rfl | rfl <;> decide) op
    have hWord : ReadOver (o :: op) " in ".toList := readOver_of_all ho (by decide) op
    have hList : ReadOver (o :: op) (listed values) :=
      readOver_listed (by rcases ho with rfl | rfl <;> decide)
        (by rcases ho with rfl | rfl <;> decide) hValues op
    exact hField.append (hWord.append hList)
  | notIn field values | startsWith field value => exact hFree.elim

variable {loose : Bool}

theorem readOver_enclosedIf {op : List Char} {text : List Char}
    (h : loose = false → ReadOver op text) (hBalanced : loose = true → Balanced 0 text) :
    ReadOver op (enclosedIf loose text) := by
  cases loose with
  | false => exact h rfl
  | true => exact readOver_enclose (hBalanced rfl) op

theorem Expression.Plain.readOver_bars {S : TextServices} (h : e.Plain S) (hOr : e.isOr = false) :
    ReadOver ['|', '|'] e.text := by
  induction e with
  | compare condition => exact Condition.Plain.readOver h (Or.inl rfl) ['|']
  | and a b iha ihb =>
    obtain ⟨hA, hB, hNestsA, hNestsB⟩ := h
    have hMarks : ReadOver ['|', '|'] [' ', '&', '&', ' '] :=
      readOver_chars (by simp [Char.utf8Size])
    refine (readOver_enclosedIf (fun hLoose => ?_) fun hLoose => ?_).append (hMarks.append
      (readOver_enclosedIf (fun hLoose => ihb hB hLoose) fun hLoose => ?_))
    · exact iha hA (Bool.or_eq_false_iff.mp hLoose).1
    · exact hA.balanced_text (hNestsA hLoose)
    · exact hB.balanced_text (hNestsB hLoose)
  | or a b => cases hOr
  | not a => exact h.elim
  | paren a => exact readOver_enclose (h.1.balanced_text h.2) _

theorem Expression.Plain.readOver_ampersands {S : TextServices} (h : e.Plain S)
    (hTight : (e.isOr || e.isAnd) = false) : ReadOver ['&', '&'] e.text := by
  cases e with
  | compare condition => exact Condition.Plain.readOver h (Or.inr rfl) ['&']
  | and a b | or a b => cases hTight
  | not a => exact h.elim
  | paren a => exact readOver_enclose (h.1.balanced_text h.2) _

theorem findOperator_here (ho : o = '|' ∨ o = '&') (ha : ReadOver [o, o] a) (b : List Char) :
    findOperator (a ++ ' ' :: o :: o :: ' ' :: b) [o, o] =
      .ok (some (a ++ [' '], ' ' :: b)) := by
  have hSpace : ReadOver [o, o] [' '] := readOver_of_all ho (by decide) [o]
  have hTo := (ha.append hSpace) [] (o :: o :: ' ' :: b)
  have hFound : findOperatorFrom [o, o] 0 false (a ++ [' ']) (o :: o :: ' ' :: b) =
      .ok (some (a ++ [' '], ' ' :: b)) := by
    rw [findOperatorFrom]
    rcases ho with rfl | rfl <;> simp [List.isPrefixOf]
  unfold findOperator
  rw [List.nil_append, hFound] at hTo
  simpa using hTo

/-! ## Reading an expression -/

theorem Condition.Plain.tight {S : TextServices} {condition : Condition}
    (h : condition.Plain S) : Tight condition.text := by
  obtain ⟨hField, -, hFree⟩ := h
  cases condition with
  | eq field value => exact compared_tight hField .eq value
  | ne field value => exact compared_tight hField .ne value
  | regex field pattern => exact compared_tight hField .regex pattern
  | isIn field values =>
    obtain ⟨value, rest, rfl⟩ := List.exists_cons_of_ne_nil hFree.1
    exact hField.tight.append (listed_tight value rest) field.text_ne_nil
      (listed_cons_ne_nil value rest) _
  | notIn field values | startsWith field value => exact hFree.elim

theorem Condition.Plain.head_ne (h : condition.Plain S) :
    (condition.text.head? == some '(') = false := by
  have hFrom : ∃ rest, condition.text = condition.field.text ++ rest := by
    cases condition <;> exact ⟨_, rfl⟩
  obtain ⟨rest, hText⟩ := hFrom
  rw [hText, List.head?_append_of_ne_nil _ condition.field.text_ne_nil, beq_eq_false_iff_ne]
  intro hHead
  exact h.1.not_mem (by decide) (List.mem_of_mem_head? (Option.mem_def.mpr hHead))

theorem Condition.text_ne_nil (condition : Condition) : condition.text ≠ [] := by
  cases condition <;> exact List.append_ne_nil_of_left_ne_nil (Field.text_ne_nil _) _

theorem enclosedIf_tight {text : List Char} (h : Tight text) : Tight (enclosedIf loose text) := by
  cases loose with
  | false => exact h
  | true => exact tight_of_ends (by decide) (by decide)

theorem enclosedIf_ne_nil {text : List Char} (h : text ≠ []) : enclosedIf loose text ≠ [] := by
  cases loose with
  | false => exact h
  | true => exact List.cons_ne_nil _ _

theorem Expression.text_ne_nil (e : Expression) : e.text ≠ [] := by
  cases e with
  | compare condition => exact condition.text_ne_nil
  | not a | paren a => exact List.cons_ne_nil _ _
  | _ => simp [Expression.text]

theorem Expression.Plain.tight {S : TextServices} (h : e.Plain S) : Tight e.text := by
  induction e with
  | compare condition => exact Condition.Plain.tight h
  | and a b iha ihb =>
    exact (enclosedIf_tight (iha h.1)).append (enclosedIf_tight (ihb h.2.1))
      (enclosedIf_ne_nil a.text_ne_nil) (enclosedIf_ne_nil b.text_ne_nil) [' ', '&', '&', ' ']
  | or a b iha ihb =>
    exact (enclosedIf_tight (iha h.1)).append (ihb h.2.1)
      (enclosedIf_ne_nil a.text_ne_nil) b.text_ne_nil [' ', '|', '|', ' ']
  | not a => exact h.elim
  | paren a => exact tight_of_ends (by decide) (by decide)

def Reads (S : TextServices) (text : List Char) (value : RequestContext → Bool) : Prop :=
  ∀ fuel input, trim input = text → input.length < fuel →
    ∃ c, parseExpressionWithin S fuel input = .ok c ∧ ∀ ctx, evaluate S c ctx = value ctx

theorem reads_condition (h : condition.Plain S) :
    Reads S condition.text fun ctx => condition.holds S ctx := by
  intro fuel input hTrim hFuel
  obtain ⟨fuel, rfl⟩ : ∃ k, fuel = k + 1 := ⟨fuel - 1, by omega⟩
  obtain ⟨c, hParse, hValue⟩ := parse_condition S h
  have hNonempty : condition.text.isEmpty = false := by
    simpa using condition.text_ne_nil
  refine ⟨c, ?_, hValue⟩
  rw [parseExpressionWithin, hTrim, hNonempty, (h.readOver (Or.inl rfl) ['|']).findOperator]
  simp only [bind, Except.bind, Bool.false_eq_true, if_false]
  rw [(h.readOver (Or.inr rfl) ['&']).findOperator]
  simp only [h.head_ne, Bool.false_and, Bool.false_eq_true, if_false]
  exact hParse

theorem trim_length_lt {input text : List Char} {fuel : Nat} (hTrim : trim input = text)
    (hFuel : input.length < fuel + 1) : text.length ≤ fuel := by
  have hLe := trim_length_le input
  rw [hTrim] at hLe
  omega

theorem reads_enclose {text : List Char} {value : RequestContext → Bool} (h : Reads S text value)
    (hTight : Tight text) (hBalanced : Balanced 0 text) : Reads S (enclose text) value := by
  intro fuel input hTrim hFuel
  obtain ⟨fuel, rfl⟩ : ∃ k, fuel = k + 1 := ⟨fuel - 1, by omega⟩
  have hLength := trim_length_lt hTrim hFuel
  have hParens : ((enclose text).head? == some '(' && (enclose text).getLast? == some ')') =
      true := by
    unfold enclose
    rw [← List.cons_append, List.getLast?_concat]
    rfl
  have hInner : (enclose text).tail.dropLast = text := by simp [enclose]
  obtain ⟨c, hParse, hValue⟩ := h fuel text hTight.trim (by
    simp only [enclose, List.length_cons, List.length_append, List.length_nil] at hLength
    omega)
  refine ⟨c, ?_, hValue⟩
  rw [parseExpressionWithin, hTrim, (readOver_enclose hBalanced ['|', '|']).findOperator]
  simp only [bind, Except.bind]
  rw [(readOver_enclose hBalanced ['&', '&']).findOperator]
  simp only [hParens, if_true, hInner]
  exact hParse

theorem reads_enclosedIf {S : TextServices} {text : List Char} {value : RequestContext → Bool}
    (h : Reads S text value) (hTight : Tight text) (hBalanced : loose = true → Balanced 0 text) :
    Reads S (enclosedIf loose text) value := by
  cases loose with
  | false => exact h
  | true => exact reads_enclose h hTight (hBalanced rfl)

theorem reads_or (ha : Reads S a va) (hb : Reads S b vb) (hOver : ReadOver ['|', '|'] a)
    (hTight : Tight a) (hNe : a ≠ []) (hTightB : Tight b) :
    Reads S (a ++ ' ' :: '|' :: '|' :: ' ' :: b) fun ctx => va ctx || vb ctx := by
  intro fuel input hTrim hFuel
  obtain ⟨fuel, rfl⟩ : ∃ k, fuel = k + 1 := ⟨fuel - 1, by omega⟩
  have hLength := trim_length_lt hTrim hFuel
  simp only [List.length_append, List.length_cons] at hLength
  obtain ⟨c, hParse, hValue⟩ := ha fuel (a ++ [' ']) (hTight.trim_append_space hNe)
    (by simp only [List.length_append, List.length_singleton]; omega)
  obtain ⟨d, hParse', hValue'⟩ := hb fuel (' ' :: b) hTightB.trim_space_cons
    (by rw [List.length_cons]; omega)
  refine ⟨.or c d, ?_, fun ctx => by rw [evaluate, hValue, hValue']⟩
  rw [parseExpressionWithin, hTrim, findOperator_here (Or.inl rfl) hOver]
  have hNonempty : (a ++ ' ' :: '|' :: '|' :: ' ' :: b).isEmpty = false := by simp
  simp only [hNonempty, bind, Except.bind, Bool.false_eq_true, if_false, hParse, hParse']
  rfl

theorem reads_and (ha : Reads S a va) (hb : Reads S b vb) (hBars : ReadOver ['|', '|'] a)
    (hBarsB : ReadOver ['|', '|'] b) (hOver : ReadOver ['&', '&'] a) (hTight : Tight a)
    (hNe : a ≠ []) (hTightB : Tight b) :
    Reads S (a ++ ' ' :: '&' :: '&' :: ' ' :: b) fun ctx => va ctx && vb ctx := by
  intro fuel input hTrim hFuel
  obtain ⟨fuel, rfl⟩ : ∃ k, fuel = k + 1 := ⟨fuel - 1, by omega⟩
  have hLength := trim_length_lt hTrim hFuel
  simp only [List.length_append, List.length_cons] at hLength
  obtain ⟨c, hParse, hValue⟩ := ha fuel (a ++ [' ']) (hTight.trim_append_space hNe)
    (by simp only [List.length_append, List.length_singleton]; omega)
  obtain ⟨d, hParse', hValue'⟩ := hb fuel (' ' :: b) hTightB.trim_space_cons
    (by rw [List.length_cons]; omega)
  refine ⟨.and c d, ?_, fun ctx => by rw [evaluate, hValue, hValue']⟩
  have hMarks : ReadOver ['|', '|'] [' ', '&', '&', ' '] := readOver_chars (by simp [Char.utf8Size])
  have hNoBars : ReadOver ['|', '|'] (a ++ ' ' :: '&' :: '&' :: ' ' :: b) :=
    hBars.append (hMarks.append hBarsB)
  have hNonempty : (a ++ ' ' :: '&' :: '&' :: ' ' :: b).isEmpty = false := by simp
  rw [parseExpressionWithin, hTrim, hNoBars.findOperator]
  simp only [hNonempty, bind, Except.bind, Bool.false_eq_true, if_false]
  rw [findOperator_here (Or.inr rfl) hOver]
  simp only [hParse, hParse']
  rfl

theorem Expression.Plain.reads {S : TextServices} (h : e.Plain S) :
    Reads S e.text fun ctx => e.holds S ctx := by
  induction e with
  | compare condition => exact reads_condition h
  | and a b iha ihb =>
    obtain ⟨hA, hB, hNestsA, hNestsB⟩ := h
    have hBalancedA := fun hLoose => hA.balanced_text (hNestsA hLoose)
    have hBalancedB := fun hLoose => hB.balanced_text (hNestsB hLoose)
    refine reads_and (reads_enclosedIf (iha hA) hA.tight hBalancedA)
      (reads_enclosedIf (ihb hB) hB.tight hBalancedB) ?_ ?_ ?_ (enclosedIf_tight hA.tight)
      (enclosedIf_ne_nil a.text_ne_nil) (enclosedIf_tight hB.tight)
    · exact readOver_enclosedIf
        (fun hLoose => hA.readOver_bars (Bool.or_eq_false_iff.mp hLoose).1) hBalancedA
    · exact readOver_enclosedIf hB.readOver_bars hBalancedB
    · exact readOver_enclosedIf hA.readOver_ampersands hBalancedA
  | or a b iha ihb =>
    obtain ⟨hA, hB, hNestsA⟩ := h
    have hBalancedA := fun hLoose => hA.balanced_text (hNestsA hLoose)
    exact reads_or (reads_enclosedIf (iha hA) hA.tight hBalancedA) (ihb hB)
      (readOver_enclosedIf hA.readOver_bars hBalancedA) (enclosedIf_tight hA.tight)
      (enclosedIf_ne_nil a.text_ne_nil) hB.tight
  | not a => exact h.elim
  | paren a ih => exact reads_enclose (ih h.1) h.1.tight (h.1.balanced_text h.2)

/-- A plain tree, written out and read again, has its own value on every request. -/
theorem evaluate_parsed_text (S : TextServices) (e : Expression) (h : e.Plain S) :
    ∃ c, parseExpression S (String.ofList e.text) = .ok c ∧
      ∀ ctx, evaluate S c ctx = e.holds S ctx := by
  unfold parseExpression
  rw [String.toList_ofList]
  exact h.reads _ _ h.tight.trim (Nat.lt_succ_self _)

namespace TextSample

/-- Connectives, an operator and parentheses inside quoted values. -/
def routed : Expression :=
  .and (.paren (.or (.compare (.eq .httpPath "/a(b) || c")) (.compare (.ne .httpHost "x && y"))))
    (.compare (.isIn (.httpHeader "X-Team") ["core in", "edge"]))

theorem evaluate_parsed_routed : ∃ c, parseExpression .ascii (String.ofList routed.text) = .ok c ∧
      ∀ ctx, evaluate .ascii c ctx = routed.holds .ascii ctx := by
  have hPath : (Condition.eq .httpPath "/a(b) || c").Plain .ascii :=
    ⟨trivial, by simp [Condition.values], trivial⟩
  have hHost : (Condition.ne .httpHost "x && y").Plain .ascii :=
    ⟨trivial, by simp [Condition.values], find_eq_none_iff.mp rfl⟩
  have hTeam : (Condition.isIn (.httpHeader "X-Team") ["core in", "edge"]).Plain .ascii := by
    refine ⟨List.all_eq_true.mp (by decide), by simp [Condition.values], by simp, ?_⟩
    simp only [List.forall_mem_cons, List.not_mem_nil]
    refine ⟨⟨by simp, fun op => find_eq_none_iff.mp ?_⟩,
      ⟨by simp, fun op => find_eq_none_iff.mp ?_⟩, nofun⟩
    · cases op <;> rfl
    · cases op <;> rfl
  have hNests : (Expression.or (.compare (.eq .httpPath "/a(b) || c"))
      (.compare (.ne .httpHost "x && y"))).Nests := by
    simp only [Expression.Nests, Expression.values, Condition.values]
    decide
  exact evaluate_parsed_text .ascii routed ⟨⟨⟨hPath, hHost, nofun⟩, hNests⟩, hTeam, nofun, nofun⟩

theorem negation_refused : (parseExpression .ascii
      (String.ofList (Expression.not (.compare (.eq .httpMethod "GET"))).text)).isOk = false := by
  decide

theorem startsWith_refused : (parseExpression .ascii
      (String.ofList (Expression.compare (.startsWith .httpPath "/a")).text)).isOk = false := by
  decide

/-- The language has no negation and no operator on the start of a field: neither text
is read as an expression. -/
theorem negation_unread : (¬ ∃ c, parseExpression .ascii
        (String.ofList (Expression.not (.compare (.eq .httpMethod "GET"))).text) = .ok c ∧
        ∀ ctx, evaluate .ascii c ctx =
          (Expression.not (.compare (.eq .httpMethod "GET"))).holds .ascii ctx) ∧
      ¬ ∃ c, parseExpression .ascii
        (String.ofList (Expression.compare (.startsWith .httpPath "/a")).text) = .ok c ∧
        ∀ ctx, evaluate .ascii c ctx =
          (Expression.compare (.startsWith .httpPath "/a")).holds .ascii ctx := by
  have hRefused : ∀ {e : Expression} {c : CompiledExpression TextServices.ascii.Regex},
      (parseExpression .ascii (String.ofList e.text)).isOk = false →
      parseExpression .ascii (String.ofList e.text) ≠ .ok c := by
    intro e c hRefused hParse
    rw [hParse] at hRefused
    cases hRefused
  exact ⟨fun ⟨_, hParse, _⟩ => hRefused negation_refused hParse,
    fun ⟨_, hParse, _⟩ => hRefused startsWith_refused hParse⟩

end TextSample

end KongRust.Router.Expressions
