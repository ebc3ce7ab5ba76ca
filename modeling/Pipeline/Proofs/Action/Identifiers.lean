import Pipeline.Proofs.Action.Soundness

/-! What the identifier of an action says of its directory. The identifier of a local action keeps
the names of its path that lead down, and drops those that lead up and the root. So it tells
directories apart only where no path leads up or starts at the root. -/

namespace Pipeline

open Resolver (Memory identifier localPath)

namespace ActionRef

variable {path text : String}

/-- The reference is one to another repository, or to a place in the workspace that is reached by
going down only. -/
def LeadsDown : ActionRef → Prop
  | workspace path => Path.isAbsolute (localPath path) = false ∧ ".." ∉ Path.names (localPath path)
  | external .. => True

instance : DecidablePred LeadsDown
  | workspace _ => inferInstanceAs (Decidable (_ ∧ _))
  | external .. => inferInstanceAs (Decidable True)

theorem names_identifier (path : String) :
    Path.names (identifier (.workspace path)) = Path.downNames (localPath path) := by
  have hspell : identifier (.workspace path) =
      "." ++ "/" ++ "/".intercalate (Path.downNames (localPath path)) := rfl
  rw [hspell, Path.names_append_slash, Path.names_downNames]
  rfl

theorem localPath_append (path : String) : localPath ("./" ++ path) = path := by
  have hspell : ("./" ++ path).toList = '.' :: '/' :: path.toList := by
    rw [String.toList_append]
    rfl
  rw [localPath, hspell]
  exact String.ofList_toList

/-- The path of the identifier, with an idle name at either end. -/
def straightPath (path : String) : String :=
  "." ++ "/" ++ "/".intercalate (Path.downNames (localPath path)) ++ "/" ++ "."

/-- A reference that goes down along the identifier of a local action. -/
def straight (path : String) : ActionRef :=
  .workspace ("./" ++ straightPath path)

theorem names_straightPath (path : String) :
    Path.names (straightPath path) = Path.downNames (localPath path) := by
  have hidle : Path.names "." = [] := rfl
  rw [straightPath, Path.names_append_slash, Path.names_append_slash,
    Path.names_downNames, hidle, List.append_nil, List.nil_append]

theorem leadsDown_straight (path : String) : (straight path).LeadsDown := by
  have hup : ".." ∉ Path.downNames (localPath path) :=
    fun h => bne_iff_ne.mp (List.mem_filter.mp h).2 rfl
  rw [straight, LeadsDown, localPath_append, names_straightPath]
  refine ⟨?_, hup⟩
  simp [straightPath, Path.isAbsolute]

theorem identifier_straight (path : String) :
    identifier (straight path) = identifier (.workspace path) := by
  have hdown := Path.downNames_of_notMem (leadsDown_straight path).2
  rw [localPath_append, names_straightPath] at hdown
  rw [straight, identifier, localPath_append, hdown, identifier]

-- Blanks and slashes at the end of a text do not count, but this one ends in a dot.
theorem parse_straight (path : String) :
    parse ("./" ++ straightPath path) = .ok (straight path) := by
  generalize hmiddle : '.' :: '/' ::
    (("/".intercalate (Path.downNames (localPath path))).toList ++ ['/']) = middle
  have hspell : ("./" ++ straightPath path).toList = '.' :: '/' :: (middle ++ ['.']) := by
    simp [straightPath, ← hmiddle]
  have hblank : Text.isBlank '.' = false := by decide
  have htrim : Text.trimChars ('.' :: '/' :: (middle ++ ['.'])) =
      '.' :: '/' :: (middle ++ ['.']) := by
    simp [Text.trimChars, Text.trimLeftChars, Text.trimRightChars, hblank]
  have hslashes : dropLastSlashes ('.' :: '/' :: (middle ++ ['.'])) =
      '.' :: '/' :: (middle ++ ['.']) := by
    simp [dropLastSlashes]
  have hcontainer : containerMark.isPrefixOf ('.' :: '/' :: (middle ++ ['.'])) = false := by
    have hmark : containerMark = ['d', 'o', 'c', 'k', 'e', 'r', ':', '/', '/'] := by decide
    rw [hmark]
    rfl
  rw [parse, hspell, htrim, if_neg (by simp), hcontainer, if_neg Bool.false_ne_true,
    if_pos (by simp), hslashes, straight, ← hspell, String.ofList_toList]

end ActionRef

/-- The chain of a complaint about a cycle, whether it is made before a run or in it. -/
def Error.cycle? : Error → Option (List String)
  | .action (.cyclic chain) => some chain
  | .config (.unresolved _ (.cyclic chain)) => some chain
  | _ => none

theorem Error.cycle?_anonymous (e : Error) : e.anonymous.cycle? = e.cycle? := by
  cases e with
  | config cause => cases cause <;> rfl
  | _ => rfl

namespace Catalog

open ActionRef

variable {catalog : Catalog} {used : ActionRef → Prop} {reference other : ActionRef} {path : String}

/-- The place that the directory of a reference names by its spelling alone. -/
def settled? (catalog : Catalog) (reference : ActionRef) : Option Location :=
  (catalog.directory? reference).map (Path.settle catalog.tree.current)

/-- References that lead down and have the same identifier have directories with the same names. -/
theorem course_alike {β : Type} (f : Bool × List String → β) (h : reference.Sound)
    (hother : other.Sound) (hdown : reference.LeadsDown) (hdown' : other.LeadsDown)
    (heq : identifier reference = identifier other) :
    (catalog.directory? reference).map (fun directory => f (Path.course directory)) =
      (catalog.directory? other).map fun directory => f (Path.course directory) := by
  cases reference with
  | workspace path =>
    cases other with
    | workspace path' =>
      have hnames := congrArg Path.names heq
      rw [names_identifier, names_identifier, Path.downNames_of_notMem hdown.2,
        Path.downNames_of_notMem hdown'.2] at hnames
      simp only [directory?, Option.map_some, Path.course]
      rw [Path.isAbsolute_join _ hdown.1, Path.isAbsolute_join _ hdown'.1,
        Path.names_join _ hdown.1, Path.names_join _ hdown'.1, hnames]
    | external owner repo place version =>
      exact absurd heq (Resolver.identifier_workspace_ne hother)
  | external owner repo place version =>
    cases other with
    | workspace path => exact absurd heq.symm (Resolver.identifier_workspace_ne h)
    | external owner' repo' place' version' => rw [eq_of_render h hother heq]

theorem settled?_alike (h : reference.Sound) (hother : other.Sound) (hdown : reference.LeadsDown)
    (hdown' : other.LeadsDown) (heq : identifier reference = identifier other) :
    catalog.settled? reference = catalog.settled? other :=
  course_alike
    (fun course => course.2.foldl Path.enter (if course.1 then [] else catalog.tree.current)) h
    hother hdown hdown' heq

/-- Where the workspace is not the root, a path that leads up or starts at the root ends in another
place than the way down with its identifier. -/
theorem settled?_straight_ne (hdown : ¬ (ActionRef.workspace path).LeadsDown)
    (hplace : Path.settle catalog.tree.current catalog.resolver.workspace ≠ []) :
    catalog.settled? (straight path) ≠ catalog.settled? (.workspace path) := by
  have hstraight : catalog.settled? (straight path) =
      some (Path.settle catalog.tree.current catalog.resolver.workspace ++
        Path.downNames (localPath path)) := by
    obtain ⟨hrelative, hup⟩ := leadsDown_straight path
    rw [localPath_append] at hrelative hup
    rw [settled?, straight, directory?, Option.map_some, localPath_append,
      Path.settle_join _ _ hrelative, Path.foldl_enter_of_notMem hup, names_straightPath]
  have hpos := List.length_pos_iff.mpr hplace
  -- The way down is as long as the identifier has names, and every other way is shorter.
  have hshorter : (Path.settle catalog.tree.current
      (Path.join catalog.resolver.workspace (localPath path))).length <
        (Path.settle catalog.tree.current catalog.resolver.workspace).length +
          (Path.downNames (localPath path)).length := by
    cases habsolute : Path.isAbsolute (localPath path) with
    | true =>
      have hle := Path.length_foldl_enter_le (Path.names (localPath path)) []
      rw [Path.join, if_pos habsolute, Path.settle, habsolute, if_pos rfl]
      rw [List.length_nil, Nat.zero_add] at hle
      exact Nat.lt_of_le_of_lt hle (Nat.lt_add_of_pos_left hpos)
    | false =>
      have hup : ".." ∈ Path.names (localPath path) := by
        by_contra hnone
        exact hdown ⟨habsolute, hnone⟩
      rw [Path.settle_join _ _ habsolute]
      exact Path.length_foldl_enter_lt hup hplace
  intro heq
  rw [hstraight] at heq
  rw [← Option.some.inj heq, List.length_append] at hshorter
  exact Nat.lt_irrefl _ hshorter

/-! ### Look-ups by references that lead down -/

/-- The references lead down, and so do those that the manifests behind them use. -/
structure Downward (catalog : Catalog) (used : ActionRef → Prop) : Prop where
  parsed {reference : ActionRef} (h : used reference) : ∃ text, parse text = .ok reference
  closed {reference inner : ActionRef} (h : used reference) (huses : catalog.Uses reference inner) :
    used inner
  leadsDown {reference : ActionRef} (h : used reference) : reference.LeadsDown

theorem Downward.sound (downward : catalog.Downward used) (h : used reference) :
    reference.Sound := by
  obtain ⟨text, hparse⟩ := downward.parsed h
  exact sound_of_parse hparse

theorem Downward.coherent (downward : catalog.Downward used) :
    catalog.Coherent (.placed _) used where
  parsed := downward.parsed
  closed := downward.closed
  same {reference other} h hother heq := by
    have hplace : (catalog.directory? reference).map catalog.tree.place? =
        (catalog.directory? other).map catalog.tree.place? :=
      course_alike (fun course =>
        catalog.tree.follow (if course.1 then [] else catalog.tree.current) course.2)
        (downward.sound h) (downward.sound hother) (downward.leadsDown h)
        (downward.leadsDown hother) heq
    exact FileTree.spelling_map_eq hplace

theorem Downward.of_chain (downward : catalog.Downward used) {chain : List ActionRef}
    (hchain : ChainFrom catalog.Uses reference chain) (h : used reference) :
    ∀ inner ∈ chain, used inner := by
  induction hchain with
  | single reference => exact List.forall_mem_singleton.mpr h
  | cons huses _ ih => exact List.forall_mem_cons.mpr ⟨h, ih (downward.closed h huses)⟩

/-! ### Complaints about cycles -/

section Cycles

variable {request : Request} {chain : List String} {e : Error}

theorem eq_cyclic_of_answer (h : catalog.answer reference = .error e)
    (hcycle : e.cycle? = some chain) : e = .action (.cyclic chain) := by
  obtain ⟨before, last, -, -, ⟨-, rfl⟩ | ⟨-, rfl⟩ | hread⟩ := walk_error List.nodup_nil h
  · cases hcycle
    rfl
  · cases hcycle
  · obtain ⟨hcyclic, -, hunresolved⟩ := read_error hread
    unfold Error.cycle? at hcycle
    split at hcycle
    · exact absurd rfl (hcyclic _)
    · exact absurd rfl (hunresolved _ _)
    · cases hcycle

theorem eq_cyclic_of_reported {job : Job} (h : catalog.answer reference = .error e)
    (hcycle : (reported job e).cycle? = some chain) : e = .action (.cyclic chain) := by
  cases e with
  | action fault =>
    cases fault <;> cases hcycle
    rfl
  | _ => exact eq_cyclic_of_answer h hcycle

theorem error_of_map {α β : Type} {x : Except Error α} {f : α → β} (h : x.map f = .error e) :
    x = .error e := by
  cases x with
  | error fault => exact congrArg Except.error (Except.error.inj h)
  | ok a => cases h

theorem error_of_mapM_attach {specs : List Step}
    (h : specs.mapM (Resolver.attach catalog.answer) = .error e) :
    ∃ reference ∈ specs.filterMap (·.reference?), catalog.answer reference = .error e := by
  obtain ⟨spec, hspec, hattach⟩ := Document.error_of_mapM h
  unfold Resolver.attach at hattach
  split at hattach
  · cases hattach
  · next reference hreference =>
    exact ⟨reference, List.mem_filterMap.mpr ⟨spec, hspec, hreference⟩, error_of_map hattach⟩

theorem cyclic_of_permit {jobs : List Job} (h : catalog.permit jobs = .error e)
    (hcycle : e.cycle? = some chain) :
    ∃ reference ∈ jobs.flatMap fun job => job.steps.filterMap (·.reference?),
      catalog.answer reference = .error (.action (.cyclic chain)) := by
  induction jobs with
  | nil => cases h
  | cons job rest ih =>
    rw [permit] at h
    split at h
    · next fault hsteps =>
      cases h
      obtain ⟨reference, hmem, hanswer⟩ := error_of_mapM_attach hsteps
      rw [eq_cyclic_of_reported hanswer hcycle] at hanswer
      exact ⟨reference, List.mem_append_left _ hmem, hanswer⟩
    · obtain ⟨reference, hmem, hanswer⟩ := ih h
      exact ⟨reference, List.mem_append_right _ hmem, hanswer⟩

/-- A complaint about a cycle is about one behind a reference of the request. -/
theorem cyclic_of_reply (h : catalog.reply request = .error e) (hcycle : e.cycle? = some chain) :
    ∃ reference ∈ request.references,
      catalog.answer reference = .error (.action (.cyclic chain)) := by
  cases request with
  | resolve reference =>
    have hanswer := error_of_map h
    rw [eq_cyclic_of_answer hanswer hcycle] at hanswer
    exact ⟨reference, List.mem_singleton_self reference, hanswer⟩
  | steps specs =>
    obtain ⟨reference, hmem, hanswer⟩ := error_of_mapM_attach (error_of_map h)
    rw [eq_cyclic_of_answer hanswer hcycle] at hanswer
    exact ⟨reference, hmem, hanswer⟩
  | preflight workflow => exact cyclic_of_permit (error_of_map h) hcycle

section Served

variable {used : ActionRef → Prop} {memory : Memory}

theorem Downward.mirrors {action : ActionUnit} (downward : catalog.Downward used)
    (right : catalog.Right (.placed _) used memory) (hused : used reference)
    (h : ((catalog.resolver.resolve catalog.tree reference).outcome memory).1 = .ok action) :
    catalog.Mirrors reference action := by
  have hview := (agrees_resolve downward.coherent hused _ right).1
  rw [h] at hview
  obtain ⟨found, hanswer, hunit⟩ := Resolver.view_eq_ok_iff.mp hview.symm
  exact (found_of_answer downward.coherent hused hanswer hunit).mirrors

theorem Downward.returns (downward : catalog.Downward used)
    (right : catalog.Right (.placed _) used memory)
    (hused : ∀ reference ∈ request.references, used reference)
    (h : ((catalog.serve request).outcome memory).1 = .error e) (hcycle : e.cycle? = some chain) :
    ∃ reference ∈ request.references, ∃ before last,
      ChainFrom catalog.Uses reference (before ++ [last]) ∧
      chain = before.map identifier ++ [identifier last] ∧
      ∃ above ∈ before, identifier above = identifier last ∧
        catalog.settled? above = catalog.settled? last := by
  -- The memory changes nothing of the chain, so it is that of a walk with nothing remembered.
  have hview := (agrees_serve downward.coherent hused _ right).1
  rw [h] at hview
  obtain ⟨fault, hreply, hanonymous⟩ := Resolver.view_eq_error_iff.mp hview.symm
  have hfault : fault.cycle? = some chain := by
    rw [← Error.cycle?_anonymous, hanonymous, Error.cycle?_anonymous, hcycle]
  obtain ⟨reference, hmem, hanswer⟩ := cyclic_of_reply hreply hfault
  obtain ⟨before, last, hchain, hnames, -, hlast⟩ := chain_of_cyclic hanswer
  obtain ⟨above, habove, heq⟩ := List.mem_map.mp hlast
  have hinside := downward.of_chain hchain (hused reference hmem)
  have husedAbove := hinside above (List.mem_append_left _ habove)
  have husedLast := hinside last (List.mem_append_right _ (List.mem_singleton_self last))
  exact ⟨reference, hmem, before, last, hchain, hnames, above, habove, heq,
    settled?_alike (downward.sound husedAbove) (downward.sound husedLast)
      (downward.leadsDown husedAbove) (downward.leadsDown husedLast) heq⟩

end Served

end Cycles

/-- References that lead down have the directory that their identifier names, however they are
spelled, and no other references have: where the workspace is not the root, every other one shares
its identifier with a reference to another directory. So a resolver that is only asked for
references that lead down, and finds no others in the manifests, gives the steps of the action that
was asked for, whatever it remembers, and complains about a cycle only where a chain of uses comes
back to the same directory. -/
theorem directory_of_identifier (catalog : Catalog) :
    (∀ reference other, (∃ text, parse text = .ok reference) → (∃ text, parse text = .ok other) →
      reference.LeadsDown → other.LeadsDown → identifier reference = identifier other →
        catalog.settled? reference = catalog.settled? other) ∧
    (Path.settle catalog.tree.current catalog.resolver.workspace ≠ [] →
      ∀ reference, ¬ reference.LeadsDown → ∃ other, (∃ text, parse text = .ok other) ∧
        other.LeadsDown ∧ identifier other = identifier reference ∧
        catalog.settled? other ≠ catalog.settled? reference) ∧
    ∀ used, catalog.Downward used → ∀ requests : List Request,
      (∀ request ∈ requests, ∀ reference ∈ request.references, used reference) →
      let memory := (catalog.serveAll catalog.fresh requests).2
      (∀ reference action, used reference →
        ((catalog.resolver.resolve catalog.tree reference).outcome memory).1 = .ok action →
          catalog.Mirrors reference action) ∧
      ∀ request, (∀ reference ∈ request.references, used reference) → ∀ e chain,
        ((catalog.serve request).outcome memory).1 = .error e → e.cycle? = some chain →
          ∃ reference ∈ request.references, ∃ before last,
            ChainFrom catalog.Uses reference (before ++ [last]) ∧
            chain = before.map identifier ++ [identifier last] ∧
            ∃ above ∈ before, identifier above = identifier last ∧
              catalog.settled? above = catalog.settled? last := by
  refine ⟨?_, ?_, ?_⟩
  · rintro reference other ⟨text, hparse⟩ ⟨text', hparse'⟩ hdown hdown' heq
    exact settled?_alike (sound_of_parse hparse) (sound_of_parse hparse') hdown hdown' heq
  · intro hplace reference hdown
    cases reference with
    | external owner repo place version => exact absurd trivial hdown
    | workspace path =>
      exact ⟨straight path, ⟨_, parse_straight path⟩, leadsDown_straight path,
        identifier_straight path, settled?_straight_ne hdown hplace⟩
  · intro used downward requests hrequests memory
    obtain ⟨-, hright⟩ := serveAll_spec downward.coherent hrequests right_fresh
    exact ⟨fun reference action hused h => downward.mirrors hright hused h,
      fun request hrequest e chain h hcycle => downward.returns hright hrequest h hcycle⟩

theorem directory_of_identifier_sample :
    sample.settled? (.workspace "./a") = sample.settled? (.workspace "././a") ∧
      (∃ other, identifier other = "./a/b" ∧
        sample.settled? other ≠ sample.settled? (.workspace "./a/../b")) ∧
      ∃ action, ((sample.resolver.resolve sample.tree (.workspace "./a")).outcome
          (sample.serveAll sample.fresh Sample.requests).2).1 = .ok action ∧
        sample.Mirrors (.workspace "./a") action := by
  obtain ⟨halike, hother, hlookUps⟩ := directory_of_identifier sample
  have hdown : ∀ reference ∈ Sample.references, reference.LeadsDown := by decide +kernel
  have downward : sample.Downward (· ∈ Sample.references) :=
    ⟨coherent_sample.parsed, coherent_sample.closed, hdown _⟩
  have hparse : ∀ reference ∈ Sample.references, ∃ text, parse text = .ok reference :=
    fun _ h => coherent_sample.parsed h
  have ha : .workspace "./a" ∈ Sample.references := by decide
  have ha' : .workspace "././a" ∈ Sample.references := by decide
  refine ⟨halike _ _ (hparse _ ha) (hparse _ ha') (hdown _ ha) (hdown _ ha') (by decide +kernel), ?_,
    ?_⟩
  · obtain ⟨other, -, -, heq, hne⟩ :=
      hother (by decide +kernel) (.workspace "./a/../b") (by decide +kernel)
    have hidentifier : identifier (.workspace "./a/../b") = "./a/b" := by decide +kernel
    exact ⟨other, heq.trans hidentifier, hne⟩
  · have hok : (((sample.resolver.resolve sample.tree (.workspace "./a")).outcome
        (sample.serveAll sample.fresh Sample.requests).2).1.toOption).isSome = true := by
      decide +kernel
    cases hanswer : ((sample.resolver.resolve sample.tree (.workspace "./a")).outcome
        (sample.serveAll sample.fresh Sample.requests).2).1 with
    | error e =>
      rw [hanswer] at hok
      cases hok
    | ok action =>
      exact ⟨action, rfl, (hlookUps _ downward Sample.requests (by decide)).1 _ _ ha hanswer⟩

/-- Two actions beside each other, one of which uses the other one by a path that leads up. -/
def aside : Catalog where
  resolver := ⟨"/w", 16⟩
  tree := (FileTree.empty.write ["w", "a", "b", "action.yml"]
    (Sample.manifest "uses: ./a/../b")).write ["w", "b", "action.yml"]
      (Sample.manifest "run: 'true'")
  fetched := "/cache"

/-- Two directories have one identifier, and the first action, which uses the second one, is said to
use itself, though the second one uses nothing. -/
theorem directory_not_of_identifier :
    ∃ reference other, parse "./a/b" = .ok reference ∧ parse "./a/../b" = .ok other ∧
      identifier reference = identifier other ∧
      aside.settled? reference ≠ aside.settled? other ∧ aside.written? other = some [none] ∧
      ((aside.resolver.resolve aside.tree reference).outcome aside.fresh).1.map (fun _ => ()) =
        .error (.action (.cyclic ["./a/b", "./a/b"])) := by
  refine ⟨.workspace "./a/b", .workspace "./a/../b", ?_, ?_, ?_, ?_, ?_, ?_⟩
  all_goals decide +kernel

end Catalog

end Pipeline
