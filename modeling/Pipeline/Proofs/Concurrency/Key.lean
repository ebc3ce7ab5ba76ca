import Mathlib.Control.Monad.Basic
import Pipeline.Concurrency.Key
import Pipeline.Proofs.Expression.Segments

/-! The keys of concurrency groups, piece by piece. The placeholders of a template are replaced
first, and the result is read as a template of expressions. Each piece keeps its place as long as
the first pass leaves the expressions alone and brings no mark of an expression into the text
between them; a value that holds such a mark is read as an expression. -/

namespace Pipeline.ConcurrencyKey

open Expression (Segment Pieces Closes openMark closeMark literalOf)

variable {run : RunInfo} {template key : String} {before after tail name text body : List Char}
  {segments pieces : List Segment}

/-- The text with each placeholder replaced by its value, which is not read again. -/
inductive Replaced (run : RunInfo) : List Char → List Char → Prop where
  | nil : Replaced run [] []
  | char {c : Char} {before after : List Char} (plain : ¬['$', '\x7b'] <+: c :: before)
      (rest : Replaced run before after) : Replaced run (c :: before) (c :: after)
  | placeholder {name before after : List Char} {value : String} (closed : '\x7d' ∉ name)
      (known : placeholder? run (String.ofList (Text.trimChars name)) = some value)
      (rest : Replaced run before after) :
      Replaced run ('$' :: '\x7b' :: (name ++ '\x7d' :: before)) (value.toList ++ after)

/-- The key that the pieces of a template spell for a run: placeholders in the text are replaced,
and expressions are replaced by the texts of their values. -/
inductive Spelled (run : RunInfo) : List Segment → String → Prop where
  | nil : Spelled run [] ""
  | literal {text : String} {out : List Char} {segments : List Segment} {key : String}
      (replaced : Replaced run text.toList out) (rest : Spelled run segments key) :
      Spelled run (.literal text :: segments) (String.ofList out ++ key)
  | expression {source value : String} {segments : List Segment} {key : String}
      (evaluated : Expression.toText <$> Expression.evaluate source run.context = .ok value)
      (rest : Spelled run segments key) :
      Spelled run (.expression source :: segments) (value ++ key)

/-- The pieces with the placeholders in their text replaced. -/
inductive Carried (run : RunInfo) : List Segment → List Segment → Prop where
  | nil : Carried run [] []
  | literal {text : String} {out : List Char} {segments pieces : List Segment}
      (replaced : Replaced run text.toList out) (rest : Carried run segments pieces) :
      Carried run (.literal text :: segments) (literalOf out.reverse ++ pieces)
  | expression {source : String} {segments pieces : List Segment}
      (rest : Carried run segments pieces) :
      Carried run (.expression source :: segments) (.expression source :: pieces)

/-- No text of the pieces holds the mark of an expression once its placeholders are replaced. -/
def Unmarked (run : RunInfo) (segments : List Segment) : Prop :=
  ∀ text out, .literal text ∈ segments → Replaced run text.toList out → ¬openMark <:+: out

/-! ### The pass that replaces placeholders -/

theorem map_eq_ok_iff {ε α β : Type} {f : α → β} {x : Except ε α} {b : β} :
    f <$> x = .ok b ↔ ∃ a, x = .ok a ∧ f a = b := by
  cases x with
  | error e =>
    refine ⟨nofun, ?_⟩
    rintro ⟨_, ha, -⟩
    cases ha
  | ok a =>
    refine ⟨fun h => ⟨a, rfl, Except.ok.inj h⟩, ?_⟩
    rintro ⟨_, ha, rfl⟩
    cases ha
    rfl

theorem takeWhile_name (closed : '\x7d' ∉ name) :
    (name ++ '\x7d' :: before).takeWhile (· != '\x7d') = name := by
  have hname : ∀ c ∈ name, (c != '\x7d') = true := fun c hc => by
    rw [bne_iff_ne]
    rintro rfl
    exact closed hc
  rw [List.takeWhile_append_of_pos hname]
  simp

theorem dropWhile_name (closed : '\x7d' ∉ name) :
    (name ++ '\x7d' :: before).dropWhile (· != '\x7d') = '\x7d' :: before := by
  have hname : ∀ c ∈ name, (c != '\x7d') = true := fun c hc => by
    rw [bne_iff_ne]
    rintro rfl
    exact closed hc
  rw [List.dropWhile_append_of_pos hname]
  simp

theorem fill_cons {c : Char} (plain : ¬['$', '\x7b'] <+: c :: before) :
    fill run template (c :: before) = (c :: ·) <$> fill run template before := by
  rw [fill]
  · rfl
  · rintro rest rfl rfl
    exact plain ⟨'\x7b' :: rest, rfl⟩
  · rintro rest rfl rfl
    exact plain ⟨rest, rfl⟩

theorem fill_dollar : fill run template ('$' :: '\x7b' :: '\x7b' :: before) =
    ('$' :: '\x7b' :: ·) <$> fill run template ('\x7b' :: before) := by
  rw [fill]
  rfl

theorem fill_mark : fill run template (openMark ++ before) =
    (openMark ++ ·) <$> fill run template before := by
  have hbrace : fill run template ('\x7b' :: before) =
      ('\x7b' :: ·) <$> fill run template before :=
    fill_cons fun ⟨_, heq⟩ => by cases heq
  show fill run template ('$' :: '\x7b' :: '\x7b' :: before) = _
  rw [fill_dollar, hbrace, Functor.map_map]
  rfl

theorem fill_close : fill run template (closeMark ++ before) =
    (closeMark ++ ·) <$> fill run template before := by
  have hbrace (cs : List Char) : fill run template ('\x7d' :: cs) =
      ('\x7d' :: ·) <$> fill run template cs :=
    fill_cons fun ⟨_, heq⟩ => by cases heq
  show fill run template ('\x7d' :: '\x7d' :: before) = _
  rw [hbrace, hbrace, Functor.map_map]
  rfl

theorem fill_placeholder {value : String} (closed : '\x7d' ∉ name)
    (plain : name.head? ≠ some '\x7b')
    (known : placeholder? run (String.ofList (Text.trimChars name)) = some value) :
    fill run template ('$' :: '\x7b' :: (name ++ '\x7d' :: before)) =
      (value.toList ++ ·) <$> fill run template before := by
  rw [fill]
  · rw [if_pos (by simp), takeWhile_name closed, dropWhile_name closed]
    dsimp only
    rw [known]
    rfl
  · intro rest heq
    cases name with
    | nil => cases heq
    | cons c name =>
      cases heq
      exact plain rfl

theorem getLast?_append_of_eq_some (front : List Char) {c : Char}
    (h : before.getLast? = some c) : (front ++ before).getLast? = some c := by
  rw [List.getLast?_append, h]
  rfl

/-- No placeholder begins where a character and what follows it are put before more text, unless it
begins at the seam. -/
theorem plain_append {c : Char} (plain : ¬['$', '\x7b'] <+: c :: before)
    (hseam : (c :: before).getLast? = some '$' → tail.head? ≠ some '\x7b') :
    ¬['$', '\x7b'] <+: c :: (before ++ tail) := by
  rintro ⟨cs, heq⟩
  cases before with
  | nil =>
    injection heq with hc hcs
    subst hc
    rw [List.nil_append] at hcs
    exact hseam rfl (hcs ▸ rfl)
  | cons d before =>
    cases heq
    exact plain ⟨before, rfl⟩

/-- Behind text that the pass comes through, it goes on as from the start, unless a placeholder
begins at the seam. -/
theorem fill_append (h : fill run template before = .ok after)
    (hseam : before.getLast? = some '$' → tail.head? ≠ some '\x7b') :
    fill run template (before ++ tail) = (after ++ ·) <$> fill run template tail := by
  induction before using fill.induct run generalizing after with
  | case1 =>
    rw [fill] at h
    cases h
    simp
  | case2 rest ih =>
    rw [fill_dollar, map_eq_ok_iff] at h
    obtain ⟨filled, hrest, rfl⟩ := h
    have htail := ih hrest hseam
    show fill run template ('$' :: '\x7b' :: '\x7b' :: (rest ++ tail)) = _
    rw [fill_dollar, ← List.cons_append, htail, Functor.map_map]
    rfl
  | case3 rest hhead hclosed _ =>
    rename_i hunknown
    rw [fill, if_pos hclosed] at h
    · dsimp only at h
      rw [hunknown] at h
      cases h
    · exact hhead
  | case4 rest hhead hclosed _ value hvalue =>
    rename_i ih
    obtain ⟨name, rest, rfl, hname⟩ := List.eq_append_cons_of_mem (List.contains_iff_mem.mp hclosed)
    have hknown : placeholder? run (String.ofList (Text.trimChars name)) = some value := by
      rw [← hvalue]
      show _ = placeholder? run (String.ofList (Text.trimChars
        ((name ++ '\x7d' :: rest).takeWhile (· != '\x7d'))))
      rw [takeWhile_name hname]
    have hplain : name.head? ≠ some '\x7b' := by
      intro heq
      obtain ⟨name, rfl⟩ := List.head?_eq_some_iff.mp heq
      exact hhead _ rfl
    rw [dropWhile_name hname] at ih
    rw [fill_placeholder hname hplain hknown, map_eq_ok_iff] at h
    obtain ⟨filled, hrest, rfl⟩ := h
    have hfront : '$' :: '\x7b' :: (name ++ '\x7d' :: rest) =
        '$' :: '\x7b' :: (name ++ ['\x7d']) ++ rest := by simp
    have htail : fill run template (rest ++ tail) = (filled ++ ·) <$> fill run template tail := by
      refine ih hrest fun hlast => hseam ?_
      rw [hfront]
      exact getLast?_append_of_eq_some _ hlast
    have hbehind : '$' :: '\x7b' :: (name ++ '\x7d' :: rest) ++ tail =
        '$' :: '\x7b' :: (name ++ '\x7d' :: (rest ++ tail)) := by simp
    rw [hbehind, fill_placeholder hname hplain hknown, htail, Functor.map_map]
    simp only [List.append_assoc]
  | case5 rest hhead hopen =>
    rw [fill, if_neg hopen] at h
    · cases h
    · exact hhead
  | case6 c rest hmark hopen ih =>
    have hplain : ¬['$', '\x7b'] <+: c :: rest := by
      rintro ⟨cs, heq⟩
      cases heq
      exact hopen cs rfl rfl
    rw [fill_cons hplain, map_eq_ok_iff] at h
    obtain ⟨filled, hrest, rfl⟩ := h
    have htail := ih hrest fun hlast =>
      hseam (getLast?_append_of_eq_some [c] hlast)
    rw [List.cons_append, fill_cons (plain_append hplain hseam), htail, Functor.map_map]
    rfl

/-- The pass replaces the placeholders of a text without a mark. -/
theorem fill_of_replaced (h : Replaced run before after) (hmark : ¬openMark <:+: before) :
    fill run template before = .ok after := by
  induction h with
  | nil => rw [fill]
  | @char c before after plain _ ih =>
    have hrest : ¬openMark <:+: before :=
      fun hin => hmark (hin.trans (List.suffix_cons c before).isInfix)
    rw [fill_cons plain, ih hrest]
    rfl
  | @placeholder name before after value closed known _ ih =>
    have hplain : name.head? ≠ some '\x7b' := by
      intro heq
      obtain ⟨name, rfl⟩ := List.head?_eq_some_iff.mp heq
      exact hmark ⟨[], name ++ '\x7d' :: before, rfl⟩
    have hsuffix : before <:+ '$' :: '\x7b' :: (name ++ '\x7d' :: before) :=
      ⟨'$' :: '\x7b' :: (name ++ ['\x7d']), by simp⟩
    rw [fill_placeholder closed hplain known, ih fun hin => hmark (hin.trans hsuffix.isInfix)]
    rfl

/-- The pass leaves a text alone in which no placeholder begins. -/
theorem fill_of_plain (h : ¬['$', '\x7b'] <:+: text) : fill run template text = .ok text := by
  induction text with
  | nil => rw [fill]
  | cons c text ih =>
    rw [List.infix_cons_iff, not_or] at h
    rw [fill_cons h.1, ih h.2]
    rfl

theorem fill_of_blank (h : ∀ c ∈ text, Text.isBlank c = true) :
    fill run template text = .ok text := by
  refine fill_of_plain fun hin => ?_
  have hblank := h '$' (hin.subset List.mem_cons_self)
  exact absurd hblank (by decide)

/-- The pass leaves the body of an expression alone if it leaves its source alone. -/
theorem fill_body (h : fill run template (Text.trimChars body) = .ok (Text.trimChars body)) :
    fill run template body = .ok body := by
  obtain ⟨front, back, hbody, hfront, hback⟩ := Text.exists_eq_append_trimChars body
  generalize Text.trimChars body = source at h hbody
  subst hbody
  have hseam : front.getLast? = some '$' → (source ++ back).head? ≠ some '\x7b' := by
    intro hlast
    have hblank := hfront '$' (List.mem_of_getLast? hlast)
    exact absurd hblank (by decide)
  have hseam' : source.getLast? = some '$' → back.head? ≠ some '\x7b' := by
    intro _ hhead
    have hblank := hback '\x7b' (List.mem_of_head? hhead)
    exact absurd hblank (by decide)
  rw [List.append_assoc, fill_append (fill_of_blank hfront) hseam, fill_append h hseam',
    fill_of_blank hback]
  rfl

/-! ### Pieces -/

theorem Replaced.unique {after' : List Char} (h : Replaced run before after)
    (h' : Replaced run before after') : after = after' := by
  induction h generalizing after' with
  | nil => cases h'; rfl
  | char plain _ ih =>
    cases h' with
    | char _ rest => rw [ih rest]
    | placeholder => exact absurd ⟨_, rfl⟩ plain
  | @placeholder name before after value closed known _ ih =>
    generalize hcs : '$' :: '\x7b' :: (name ++ '\x7d' :: before) = cs at h'
    cases h' with
    | nil => cases hcs
    | char plain =>
      rw [← hcs] at plain
      exact absurd ⟨_, rfl⟩ plain
    | @placeholder name' before' after' value' closed' known' rest =>
      simp only [List.cons.injEq, true_and] at hcs
      have hname := congrArg (List.takeWhile (· != '\x7d')) hcs
      rw [takeWhile_name closed, takeWhile_name closed'] at hname
      have hbefore := congrArg (List.dropWhile (· != '\x7d')) hcs
      rw [dropWhile_name closed, dropWhile_name closed'] at hbefore
      cases hname
      cases hbefore
      rw [known] at known'
      cases known'
      rw [ih rest]

theorem Spelled.of_literalOf (h : Spelled run (literalOf text.reverse ++ segments) key) :
    ∃ out rest, Replaced run text out ∧ Spelled run segments rest ∧
      key = String.ofList out ++ rest := by
  rw [Expression.literalOf_reverse] at h
  split at h
  · next hempty =>
    subst hempty
    exact ⟨[], key, .nil, h, by simp⟩
  · cases h with
    | literal replaced rest =>
      rw [String.toList_ofList] at replaced
      exact ⟨_, _, replaced, rest, rfl⟩

theorem Carried.of_literalOf (h : Carried run (literalOf text.reverse ++ segments) pieces) :
    ∃ out rest, Replaced run text out ∧ Carried run segments rest ∧
      pieces = literalOf out.reverse ++ rest := by
  rw [Expression.literalOf_reverse] at h
  split at h
  · next hempty =>
    subst hempty
    exact ⟨[], pieces, .nil, h, rfl⟩
  · cases h with
    | literal replaced rest =>
      rw [String.toList_ofList] at replaced
      exact ⟨_, _, replaced, rest, rfl⟩

theorem Carried.literalOf {out : List Char} (hreplaced : Replaced run text out)
    (h : Carried run segments pieces) :
    Carried run (Expression.literalOf text.reverse ++ segments)
      (Expression.literalOf out.reverse ++ pieces) := by
  rw [Expression.literalOf_reverse text]
  split
  · next hempty =>
    subst hempty
    cases hreplaced
    exact h
  · exact .literal (by rw [String.toList_ofList]; exact hreplaced) h

theorem unmarked_literalOf_iff {out : List Char} (hreplaced : Replaced run text out) :
    Unmarked run (literalOf text.reverse ++ segments) ↔
      ¬openMark <:+: out ∧ Unmarked run segments := by
  rw [Expression.literalOf_reverse]
  split
  · next hempty =>
    subst hempty
    cases hreplaced
    have hnil : ¬openMark <:+: [] := by simp [openMark]
    exact ⟨fun h => ⟨hnil, h⟩, fun h => h.2⟩
  · refine ⟨fun h => ⟨?_, fun t o hmem => h t o (List.mem_append_right _ hmem)⟩, ?_⟩
    · refine h (String.ofList text) out List.mem_cons_self ?_
      rw [String.toList_ofList]
      exact hreplaced
    · rintro ⟨hout, hrest⟩ t o hmem hr
      rcases List.mem_cons.mp hmem with heq | hmem
      · cases heq
        rw [String.toList_ofList] at hr
        rw [hr.unique hreplaced]
        exact hout
      · exact hrest t o hmem hr

/-! ### Both passes -/

/-- The pass leaves the expressions of the pieces alone. -/
def LeftAlone (run : RunInfo) (template : String) (segments : List Segment) : Prop :=
  ∀ source, .expression source ∈ segments →
    fill run template source.toList = .ok source.toList

theorem leftAlone_of_plain
    (h : ∀ source, .expression source ∈ segments → ¬['$', '\x7b'] <:+: source.toList) :
    LeftAlone run template segments :=
  fun source hmem => fill_of_plain (h source hmem)

/-- The pass that replaces placeholders comes through a template whose expressions it leaves alone,
and its result has the pieces of the template, with their placeholders replaced, exactly if no text
among them gets a mark. -/
theorem fill_pieces {cs : List Char} (h : Pieces cs segments) (hspelled : Spelled run segments key)
    (hleft : LeftAlone run template segments) :
    ∃ filled, fill run template cs = .ok filled ∧
      (∀ pieces, Pieces filled pieces → Carried run segments pieces → Unmarked run segments) ∧
      (Unmarked run segments → ∃ pieces, Pieces filled pieces ∧ Carried run segments pieces) := by
  induction h generalizing key with
  | last text unmarked =>
    rw [← List.append_nil (literalOf text.reverse)] at hspelled ⊢
    obtain ⟨out, _, hout, hrest, -⟩ := hspelled.of_literalOf
    refine ⟨out, fill_of_replaced hout unmarked, fun pieces hpieces hcarried => ?_,
      fun hunmarked => ?_⟩
    · obtain ⟨out', rest, hout', hrest', rfl⟩ := hcarried.of_literalOf
      cases hrest'
      obtain rfl := hout.unique hout'
      rw [List.append_nil] at hpieces
      rw [unmarked_literalOf_iff hout]
      exact ⟨hpieces.unmarked, fun _ _ hmem => by cases hmem⟩
    · rw [unmarked_literalOf_iff hout] at hunmarked
      refine ⟨literalOf out.reverse ++ [], ?_, Carried.literalOf hout .nil⟩
      rw [List.append_nil]
      exact .last out hunmarked.1
  | @next text body rest segments unmarked closes tail ih =>
    obtain ⟨out, _, hout, hbehind, -⟩ := hspelled.of_literalOf
    cases hbehind with
    | expression _ hbehind =>
      obtain ⟨filled, hfilled, hnecessary, hsufficient⟩ := ih hbehind fun source hmem =>
        hleft source (List.mem_append_right _ (List.mem_cons_of_mem _ hmem))
      have hbody : fill run template body = .ok body := by
        have hsource := hleft (String.ofList (Text.trimChars body))
          (List.mem_append_right _ List.mem_cons_self)
        rw [String.toList_ofList] at hsource
        exact fill_body hsource
      have hexpression : fill run template (openMark ++ (body ++ closeMark ++ rest)) =
          .ok (openMark ++ (body ++ closeMark ++ filled)) := by
        rw [fill_mark, List.append_assoc body, fill_append hbody fun _ => by simp [closeMark],
          fill_close, hfilled, List.append_assoc body]
        rfl
      have hunmarked_iff : Unmarked run (literalOf text.reverse ++
          .expression (String.ofList (Text.trimChars body)) :: segments) ↔
            ¬openMark <:+: out ∧ Unmarked run segments := by
        rw [unmarked_literalOf_iff hout]
        simp [Unmarked]
      refine ⟨out ++ openMark ++ (body ++ closeMark ++ filled), ?_,
        fun pieces hpieces hcarried => ?_, fun hunmarked => ?_⟩
      · rw [List.append_assoc text, List.append_assoc out,
          fill_append (fill_of_replaced hout unmarked) fun _ => by simp [openMark], hexpression]
        rfl
      · obtain ⟨out', rest', hout', hrest', rfl⟩ := hcarried.of_literalOf
        cases hrest' with
        | expression hrest' =>
          obtain rfl := hout.unique hout'
          obtain ⟨hmark, hrest⟩ := hpieces.of_append closes
          exact hunmarked_iff.mpr ⟨hmark, hnecessary _ hrest hrest'⟩
      · obtain ⟨hmark, hrest⟩ := hunmarked_iff.mp hunmarked
        obtain ⟨pieces, hpieces, hcarried⟩ := hsufficient hrest
        exact ⟨_, .next out body hmark closes hpieces,
          Carried.literalOf hout (.expression hcarried)⟩

/-- The pieces with their placeholders replaced render to the key that the template spells. -/
theorem Carried.renderSegments (h : Carried run segments pieces)
    (hspelled : Spelled run segments key) :
    Expression.renderSegments run.context pieces = .ok key := by
  induction h generalizing key with
  | nil => cases hspelled; rfl
  | literal replaced _ ih =>
    cases hspelled with
    | literal replaced' rest =>
      rw [Expression.renderSegments_literalOf, ih rest, replaced.unique replaced']
      rfl
  | expression _ ih =>
    cases hspelled with
    | expression evaluated rest =>
      obtain ⟨value, hvalue, rfl⟩ := map_eq_ok_iff.mp evaluated
      rw [Expression.renderSegments, hvalue, ih rest]
      rfl

/-- The key is what the pieces of the filled template render to, unless that is blank. -/
theorem render_of_pieces {filled : List Char}
    (hfill : fill run template template.toList = .ok filled) (hpieces : Pieces filled pieces)
    (hkey : Expression.renderSegments run.context pieces = .ok key) :
    render template run = if Text.isAllBlank key then .error (.blank template) else .ok key := by
  have hpieces' : Pieces (String.ofList filled).toList pieces := by
    rw [String.toList_ofList]
    exact hpieces
  unfold render
  rw [hfill]
  simp only [bind, Except.bind]
  rw [Expression.interpolate_of_pieces hpieces', hkey]
  rfl

/-- Where the pass leaves the expressions of a template alone, its result has the pieces of the
template exactly if no text among them gets a mark; and then the key is the one that the template
spells, unless that is blank. -/
theorem render_eq_spelled (hsplit : Expression.split template = .ok segments)
    (hspelled : Spelled run segments key) (hleft : LeftAlone run template segments) :
    ((∃ filled pieces, fill run template template.toList = .ok filled ∧
        Expression.split (String.ofList filled) = .ok pieces ∧ Carried run segments pieces) ↔
      Unmarked run segments) ∧
    (Unmarked run segments → render template run =
      if Text.isAllBlank key then .error (.blank template) else .ok key) := by
  obtain ⟨filled, hfilled, hnecessary, hsufficient⟩ :=
    fill_pieces (Expression.split_eq_ok_iff.mp hsplit) hspelled hleft
  refine ⟨⟨?_, fun hunmarked => ?_⟩, fun hunmarked => ?_⟩
  · rintro ⟨filled', pieces, hfilled', hpieces, hcarried⟩
    rw [hfilled] at hfilled'
    cases hfilled'
    rw [Expression.split_eq_ok_iff, String.toList_ofList] at hpieces
    exact hnecessary pieces hpieces hcarried
  · obtain ⟨pieces, hpieces, hcarried⟩ := hsufficient hunmarked
    refine ⟨filled, pieces, hfilled, ?_, hcarried⟩
    rw [Expression.split_eq_ok_iff, String.toList_ofList]
    exact hpieces
  · obtain ⟨pieces, hpieces, hcarried⟩ := hsufficient hunmarked
    exact render_of_pieces hfilled hpieces (hcarried.renderSegments hspelled)

/-! ### Runs for a push -/

/-- A run for a push. -/
def pushed (ref : String) (sha : Option String) : RunInfo :=
  ⟨"1", ⟨"CI", [.of "push"], none, [], []⟩, ⟨"push", none, ref, none, none, sha, none⟩, "/", [],
    .linux⟩

theorem evaluate_of_tokens {source : String} {tokens : List Expression.Token}
    {expr : Expression.Expr} (context : Expression.Context)
    (htokens : Expression.tokenize source = .ok tokens)
    (hexpr : Expression.parseTokens tokens = .ok expr) :
    Expression.evaluate source context = expr.eval context := by
  have hparse : Expression.parse source = .ok expr := by
    rw [Expression.parse, htokens]
    exact hexpr
  rw [Expression.evaluate, hparse]

theorem parseTokens_text (value : String) :
    Expression.parseTokens [.text value] = .ok (.text value) := by
  simp [Expression.parseTokens, Expression.parseLevel, Expression.parseChain,
    Expression.parseUnary, Expression.parsePrimary, Expression.parseAccess,
    Expression.Level.tighter?]

theorem parseTokens_member (name property : String) :
    Expression.parseTokens [.name name, .symbol .dot, .name property] =
      .ok (.member (.context name) property) := by
  simp [Expression.parseTokens, Expression.parseLevel, Expression.parseChain,
    Expression.parseUnary, Expression.parsePrimary, Expression.parseAccess,
    Expression.Level.tighter?, Expression.afterSymbol?, Expression.propertyName?]

/-- A placeholder and an expression, for a push whose ref holds no mark. -/
theorem render_eq_spelled_pushed :
    Expression.split "$\x7bworkflow\x7d-$\x7b\x7b github.ref \x7d\x7d" =
      .ok [.literal "$\x7bworkflow\x7d-", .expression "github.ref"] ∧
    Spelled (pushed "main" none) [.literal "$\x7bworkflow\x7d-", .expression "github.ref"]
      "CI-main" ∧
    render "$\x7bworkflow\x7d-$\x7b\x7b github.ref \x7d\x7d" (pushed "main" none) =
      .ok "CI-main" := by
  have hreplaced : Replaced (pushed "main" none) "$\x7bworkflow\x7d-".toList "CI-".toList := by
    have hbefore : "$\x7bworkflow\x7d-".toList =
        '$' :: '\x7b' :: ("workflow".toList ++ '\x7d' :: ['-']) := by decide +kernel
    have hafter : "CI-".toList = "CI".toList ++ ['-'] := by decide +kernel
    rw [hbefore, hafter]
    exact .placeholder (by decide +kernel) (by decide +kernel) (.char (by decide) .nil)
  have hsplit : Expression.split "$\x7bworkflow\x7d-$\x7b\x7b github.ref \x7d\x7d" =
      .ok [.literal "$\x7bworkflow\x7d-", .expression "github.ref"] := by decide +kernel
  have hvalue : Expression.toText <$> Expression.evaluate "github.ref" (pushed "main" none).context =
      .ok "main" := by
    have htokens : Expression.tokenize "github.ref" =
        .ok [.name "github", .symbol .dot, .name "ref"] := by decide +kernel
    rw [evaluate_of_tokens _ htokens (parseTokens_member "github" "ref")]
    decide +kernel
  have hspelled : Spelled (pushed "main" none)
      [.literal "$\x7bworkflow\x7d-", .expression "github.ref"] "CI-main" := by
    have hkey : "CI-main" = String.ofList "CI-".toList ++ ("main" ++ "") := by decide +kernel
    rw [hkey]
    exact .literal hreplaced (.expression hvalue .nil)
  have hleft : LeftAlone (pushed "main" none)
      "$\x7bworkflow\x7d-$\x7b\x7b github.ref \x7d\x7d"
      [.literal "$\x7bworkflow\x7d-", .expression "github.ref"] := by
    refine leftAlone_of_plain fun source hmem => ?_
    obtain rfl : source = "github.ref" := by simpa using hmem
    decide +kernel
  have hunmarked : Unmarked (pushed "main" none)
      [.literal "$\x7bworkflow\x7d-", .expression "github.ref"] := by
    intro text out hmem hout
    obtain rfl : text = "$\x7bworkflow\x7d-" := by simpa using hmem
    rw [hout.unique hreplaced]
    decide +kernel
  refine ⟨hsplit, hspelled, ?_⟩
  rw [(render_eq_spelled hsplit hspelled hleft).2 hunmarked]
  decide +kernel

/-- A ref that holds an expression is read as one, and a placeholder in a quoted text of an
expression is replaced: the keys are not the ones that the templates spell. -/
theorem render_reads_values :
    (Expression.split "$\x7bref\x7d" = .ok [.literal "$\x7bref\x7d"] ∧
      Spelled (pushed "$\x7b\x7b github.sha \x7d\x7d" (some "S")) [.literal "$\x7bref\x7d"]
        "$\x7b\x7b github.sha \x7d\x7d" ∧
      render "$\x7bref\x7d" (pushed "$\x7b\x7b github.sha \x7d\x7d" (some "S")) = .ok "S") ∧
    (Expression.split "$\x7b\x7b '$\x7bref\x7d' \x7d\x7d" =
        .ok [.expression "'$\x7bref\x7d'"] ∧
      Spelled (pushed "main" none) [.expression "'$\x7bref\x7d'"] "$\x7bref\x7d" ∧
      render "$\x7b\x7b '$\x7bref\x7d' \x7d\x7d" (pushed "main" none) = .ok "main") := by
  refine ⟨⟨by decide +kernel, ?_, ?_⟩, ⟨by decide +kernel, ?_, ?_⟩⟩
  · have hbefore : "$\x7bref\x7d".toList = '$' :: '\x7b' :: ("ref".toList ++ '\x7d' :: []) := by
      decide +kernel
    have hkey : "$\x7b\x7b github.sha \x7d\x7d" =
        String.ofList ("$\x7b\x7b github.sha \x7d\x7d".toList ++ []) ++ "" := by decide +kernel
    rw [hkey]
    refine .literal ?_ .nil
    rw [hbefore]
    exact .placeholder (by decide +kernel) (by decide +kernel) .nil
  · have hfill : fill (pushed "$\x7b\x7b github.sha \x7d\x7d" (some "S")) "$\x7bref\x7d"
        "$\x7bref\x7d".toList = .ok "$\x7b\x7b github.sha \x7d\x7d".toList := by decide +kernel
    have hsplit : Expression.split "$\x7b\x7b github.sha \x7d\x7d" =
        .ok [.expression "github.sha"] := by decide +kernel
    have htokens : Expression.tokenize "github.sha" =
        .ok [.name "github", .symbol .dot, .name "sha"] := by decide +kernel
    have hkey : Expression.renderSegments
        (pushed "$\x7b\x7b github.sha \x7d\x7d" (some "S")).context [.expression "github.sha"] =
        .ok "S" := by
      rw [Expression.renderSegments,
        evaluate_of_tokens _ htokens (parseTokens_member "github" "sha")]
      decide +kernel
    rw [render_of_pieces hfill (Expression.split_eq_ok_iff.mp hsplit) hkey]
    decide +kernel
  · have htokens : Expression.tokenize "'$\x7bref\x7d'" = .ok [.text "$\x7bref\x7d"] := by
      decide +kernel
    have hkey : "$\x7bref\x7d" = "$\x7bref\x7d" ++ "" := by decide +kernel
    rw [hkey]
    refine .expression ?_ .nil
    rw [evaluate_of_tokens _ htokens (parseTokens_text "$\x7bref\x7d")]
    rfl
  · have hfill : fill (pushed "main" none) "$\x7b\x7b '$\x7bref\x7d' \x7d\x7d"
        "$\x7b\x7b '$\x7bref\x7d' \x7d\x7d".toList =
        .ok "$\x7b\x7b 'main' \x7d\x7d".toList := by decide +kernel
    have hsplit : Expression.split "$\x7b\x7b 'main' \x7d\x7d" =
        .ok [.expression "'main'"] := by decide +kernel
    have htokens : Expression.tokenize "'main'" = .ok [.text "main"] := by decide +kernel
    have hkey : Expression.renderSegments (pushed "main" none).context [.expression "'main'"] =
        .ok "main" := by
      rw [Expression.renderSegments, evaluate_of_tokens _ htokens (parseTokens_text "main")]
      decide +kernel
    rw [render_of_pieces hfill (Expression.split_eq_ok_iff.mp hsplit) hkey]
    decide +kernel

end Pipeline.ConcurrencyKey
