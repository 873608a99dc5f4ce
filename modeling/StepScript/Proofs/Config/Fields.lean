import StepScript.Error
set_option autoImplicit false

/-!
# Configuration: fields of a file

What a configuration that is read from a file says about a field is what the entry named after the
field says, and the default where there is no such entry.  A record is read entry by entry into one
state, so this takes two facts about a field: its own entry sets it, and no other entry changes it.
No name is read twice, so the entry that sets it is the only one.

Main statements: `Reader.Shows.gives`, for a field of any record, and `Config.readFrom_of_ofYaml`.
-/

namespace StepScript

/-- What is mapped is `ok` when it was so before. -/
theorem except_map_eq_ok_iff {ε α β : Type} {f : α → β} {x : Except ε α} {b : β} :
    x.map f = .ok b ↔ ∃ a, x = .ok a ∧ f a = b := by
  cases x with
  | error e => simp [Except.map]
  | ok a => simp [Except.map]

end StepScript

namespace StepScript.Yaml.Reader

/-! ## One field of a record -/

section Fold

variable {σ α : Type} {f : Fields σ} {name : String} {get : σ → α} {read : Reader α}

/-- A field of a record as it shows in what is read: its own entry sets it, and no other entry
changes it. -/
structure Shows (f : Fields σ) (name : String) (get : σ → α) (read : Reader α) : Prop where
  known : f.known.contains name = true
  own : ∀ {s s' : σ} {d : Document} {path : List String} {n : Node},
    f.take name s d path n = .ok s' → read d path n = .ok (get s')
  other : ∀ {other : String} {s s' : σ} {d : Document} {path : List String} {n : Node},
    f.known.contains other = true → other ≠ name → f.take other s d path n = .ok s' → get s' = get s

/-- The entries of a record give a field this value: the entry with its name, if there is one, and
else the default. -/
structure Gives (d : Document) (path : List String) (es : List (Node × Node)) (name : String)
    (read : Reader α) (default value : α) : Prop where
  named : ∀ e ∈ es, text "field identifier" d path e.1 = .ok name →
    read d (path ++ [pathPart e.1]) e.2 = .ok value
  absent : (∀ e ∈ es, text "field identifier" d path e.1 ≠ .ok name) → value = default

variable {d : Document} {path : List String} {mark : Mark}

/-- All that the first entry of a record can be, if the record is read. -/
theorem fold_cons_eq_ok {key value : Node} {es : List (Node × Node)} {seen seen' : List String}
    {s s' : σ} (h : fold f d path mark seen s ((key, value) :: es) = .ok (seen', s')) :
    ∃ name, text "field identifier" d path key = .ok name ∧
      ((f.known.contains name = true ∧ seen.contains name = false ∧
          ∃ s₁, f.take name s d (path ++ [pathPart key]) value = .ok s₁ ∧
            fold f d path mark (name :: seen) s₁ es = .ok (seen', s')) ∨
        (f.known.contains name = false ∧ fold f d path mark seen s es = .ok (seen', s'))) := by
  rw [fold] at h
  cases hkey : text "field identifier" d path key with
  | error e => simp [hkey] at h
  | ok name =>
      refine ⟨name, rfl, ?_⟩
      simp only [hkey] at h
      cases hknown : f.known.contains name with
      | true =>
          rw [hknown, if_pos rfl] at h
          cases hseen : seen.contains name with
          | true => rw [hseen, if_pos rfl] at h; cases h
          | false =>
              rw [hseen, if_neg Bool.false_ne_true] at h
              cases htake : f.take name s d (path ++ [pathPart key]) value with
              | error e => simp [htake] at h
              | ok s₁ =>
                  simp only [htake] at h
                  exact .inl ⟨rfl, rfl, s₁, rfl, h⟩
      | false =>
          rw [hknown, if_neg Bool.false_ne_true] at h
          split at h
          · cases h
          · split at h
            · cases h
            · exact .inr ⟨rfl, h⟩

/-- The first entry of a record has another name, so the value comes from the others. -/
theorem Gives.cons {key value : Node} {other : String} {es : List (Node × Node)} {default given : α}
    (hkey : text "field identifier" d path key = .ok other) (hother : other ≠ name)
    (h : Gives d path es name read default given) :
    Gives d path ((key, value) :: es) name read default given where
  named e he hname := by
    rcases List.mem_cons.mp he with rfl | he
    · exact absurd (Except.ok.inj (hkey.symm.trans hname)) hother
    · exact h.named e he hname
  absent hnone := h.absent fun e he => hnone e (List.mem_cons_of_mem _ he)

/-- A field that was met is not met again. -/
theorem not_named_of_seen (hknown : f.known.contains name = true) {es : List (Node × Node)}
    {seen seen' : List String} {s s' : σ} (hmet : seen.contains name = true)
    (h : fold f d path mark seen s es = .ok (seen', s')) :
    ∀ e ∈ es, text "field identifier" d path e.1 ≠ .ok name := by
  induction es generalizing seen s with
  | nil => exact nofun
  | cons e es ih =>
      intro entry hentry hname
      obtain ⟨key, value⟩ := e
      obtain ⟨other, hkey, ⟨-, hnew, s₁, -, hrest⟩ | ⟨hunknown, hrest⟩⟩ := fold_cons_eq_ok h
      · rcases List.mem_cons.mp hentry with rfl | hentry
        · obtain rfl := Except.ok.inj (hkey.symm.trans hname)
          rw [hmet] at hnew
          cases hnew
        · have hstill : (other :: seen).contains name = true := by
            rw [List.contains_cons, hmet, Bool.or_true]
          exact ih hstill hrest entry hentry hname
      · rcases List.mem_cons.mp hentry with rfl | hentry
        · obtain rfl := Except.ok.inj (hkey.symm.trans hname)
          rw [hknown] at hunknown
          cases hunknown
        · exact ih hmet hrest entry hentry hname

/-- **One field.**  What a record says about a field is what the entry of that name says. -/
theorem Shows.gives (hshows : Shows f name get read) {es : List (Node × Node)}
    {seen seen' : List String} {s s' : σ} (h : fold f d path mark seen s es = .ok (seen', s')) :
    Gives d path es name read (get s) (get s') := by
  induction es generalizing seen s with
  | nil =>
      obtain ⟨-, rfl⟩ := Prod.mk.inj (Except.ok.inj h)
      exact ⟨nofun, fun _ => rfl⟩
  | cons e es ih =>
      obtain ⟨key, value⟩ := e
      obtain ⟨other, hkey, ⟨hknown, hnew, s₁, htake, hrest⟩ | ⟨hunknown, hrest⟩⟩ :=
        fold_cons_eq_ok h
      · by_cases hother : other = name
        · subst hother
          -- This is the entry of the field, and the last of its name: the others keep the value.
          have hlast := not_named_of_seen hshows.known (by simp) hrest
          have hvalue := hshows.own htake
          rw [← (ih hrest).absent hlast] at hvalue
          refine ⟨?_, fun hnone => absurd hkey (hnone _ List.mem_cons_self)⟩
          intro entry hentry hname
          rcases List.mem_cons.mp hentry with rfl | hentry
          · exact hvalue
          · exact absurd hname (hlast entry hentry)
        · have hgives := ih hrest
          rw [hshows.other hknown hother htake] at hgives
          exact hgives.cons hkey hother
      · have hother : other ≠ name := by
          rintro rfl
          rw [hshows.known] at hunknown
          cases hunknown
        exact (ih hrest).cons hkey hother

end Fold

end StepScript.Yaml.Reader

namespace StepScript

open Yaml

namespace Config

/-! ## The fields of a configuration -/

/-- Two configurations that may differ in the field of this name and in no other one. -/
structure AgreesBut (name : String) (c c' : Config) : Prop where
  kind : name ≠ "kind" → c'.kind = c.kind
  seed : name ≠ "seed" → c'.seed = c.seed
  board : name ≠ "board" → c'.board = c.board
  game : name ≠ "game" → c'.game = c.game
  pacing : name ≠ "pacing" → c'.pacing = c.pacing

/-- An entry changes the field it is named after. -/
theorem agreesBut_of_take {outer : Mark} {name : String} {c c' : Config} {d : Document}
    {path : List String} {n : Node} (hknown : (fields outer).known.contains name = true)
    (h : (fields outer).take name c d path n = .ok c') : c.AgreesBut name c' := by
  have hname : name = "schema_version" ∨ name = "kind" ∨ name = "seed" ∨ name = "board" ∨
      name = "game" ∨ name = "pacing" := by simpa [fields] using hknown
  rcases hname with rfl | rfl | rfl | rfl | rfl | rfl
  all_goals
    obtain ⟨_, _, rfl⟩ := except_map_eq_ok_iff.mp h
    constructor <;> simp

section Shows

variable (outer : Mark)

/-- A field that is set to what its reader gives. -/
theorem shows_of_set {α : Type} {name : String} {get : Config → α} {read : Reader α}
    (set : Config → α → Config) (hknown : (fields outer).known.contains name = true)
    (htake : ∀ c d path n, (fields outer).take name c d path n = (read d path n).map (set c))
    (hset : ∀ c a, get (set c a) = a)
    (hframe : ∀ {other : String} {c c' : Config}, c.AgreesBut other c' → other ≠ name →
      get c' = get c) : Reader.Shows (fields outer) name get read where
  known := hknown
  own {c c' d path n} h := by
    rw [htake] at h
    obtain ⟨a, hread, rfl⟩ := except_map_eq_ok_iff.mp h
    rw [hread, hset]
  other hother hne h := hframe (agreesBut_of_take hother h) hne

theorem shows_kind : Reader.Shows (fields outer) "kind" kind (Kind.read outer) :=
  shows_of_set outer (fun c kind => { c with kind := kind }) (by simp [fields])
    (fun _ _ _ _ => rfl) (fun _ _ => rfl) AgreesBut.kind

theorem shows_seed : Reader.Shows (fields outer) "seed" seed Reader.uint64 :=
  shows_of_set outer (fun c seed => { c with seed := seed }) (by simp [fields])
    (fun _ _ _ _ => rfl) (fun _ _ => rfl) AgreesBut.seed

theorem shows_board : Reader.Shows (fields outer) "board" board
    (Reader.record BoardSection.fields "struct BoardConfig" .standard) :=
  shows_of_set outer (fun c board => { c with board := board }) (by simp [fields])
    (fun _ _ _ _ => rfl) (fun _ _ => rfl) AgreesBut.board

theorem shows_game : Reader.Shows (fields outer) "game" game
    (Reader.record GameSection.fields "struct GameConfig" .standard) :=
  shows_of_set outer (fun c game => { c with game := game }) (by simp [fields])
    (fun _ _ _ _ => rfl) (fun _ _ => rfl) AgreesBut.game

theorem shows_pacing : Reader.Shows (fields outer) "pacing" pacing (readPacing outer) :=
  shows_of_set outer (fun c pacing => { c with pacing := pacing }) (by simp [fields])
    (fun _ _ _ _ => rfl) (fun _ _ => rfl) AgreesBut.pacing

end Shows

/-! ## Files -/

/-- The entries at the root of a document give every field of a configuration its value. -/
structure GivenBy (d : Document) (es : List (Node × Node)) (c : Config) : Prop where
  kind : Reader.Gives d [] es "kind" (Kind.read (d.resolve d.root).mark) .turtle c.kind
  seed : Reader.Gives d [] es "seed" Reader.uint64 42 c.seed
  board : Reader.Gives d [] es "board"
    (Reader.record BoardSection.fields "struct BoardConfig" .standard) .standard c.board
  game : Reader.Gives d [] es "game"
    (Reader.record GameSection.fields "struct GameConfig" .standard) .standard c.game
  pacing : Reader.Gives d [] es "pacing" (readPacing (d.resolve d.root).mark) none c.pacing

/-- A configuration says what the text says that it is read from: a text without a document leaves
everything at its default. -/
inductive ReadFrom (text : String) : Config → Prop
  | nothing (h : documentOf text = none) : ReadFrom text .standard
  | document {d : Document} {mark : Mark} {es : List (Node × Node)} {c : Config}
      (h : documentOf text = some d)
      (hentries : Reader.entries "struct SimConfig" d [] d.root = .ok (mark, es))
      (hgiven : GivenBy d es c) : ReadFrom text c

/-- A document that is read has entries at its root, and they are read in order. -/
theorem fold_of_ofDocument {d : Document} {c : Config} (h : ofDocument d = .ok c) :
    ∃ seen mark es, Reader.entries "struct SimConfig" d [] d.root = .ok (mark, es) ∧
      Reader.fold (fields (d.resolve d.root).mark) d [] mark [] .standard es = .ok (seen, c) := by
  have hrecord : Reader.record (fields (d.resolve d.root).mark) "struct SimConfig" .standard d []
      d.root = .ok c := by
    simp only [ofDocument] at h
    cases hread : Reader.record (fields (d.resolve d.root).mark) "struct SimConfig" .standard d []
        d.root with
    | error fault =>
        rw [hread] at h
        cases h
    | ok c' =>
        simp only [hread] at h
        split at h
        · cases h
        · split at h
          · cases h
          · exact h
  unfold Reader.record at hrecord
  split at hrecord
  · cases hrecord
  · next mark es hentries =>
      obtain ⟨⟨seen, c'⟩, hfold, rfl⟩ := except_map_eq_ok_iff.mp hrecord
      exact ⟨seen, mark, es, hentries, hfold⟩

/-- **What is read from a text is what the text says.** -/
theorem readFrom_of_ofYaml {text : String} {c : Config} (h : ofYaml text = .ok c) :
    ReadFrom text c := by
  have hread : ((documentOf text).map ofDocument).getD (.ok standard) = .ok c := by
    simp only [ofYaml] at h
    cases hread : ((documentOf text).map ofDocument).getD (.ok standard) with
    | error fault =>
        rw [hread] at h
        cases h
    | ok c' =>
        simp only [hread] at h
        split at h
        · cases h
        · rw [Except.ok.inj h]
  cases hdocument : documentOf text with
  | none =>
      rw [hdocument] at hread
      obtain rfl := Except.ok.inj hread
      exact .nothing hdocument
  | some d =>
      rw [hdocument] at hread
      obtain ⟨seen, mark, es, hentries, hfold⟩ := fold_of_ofDocument hread
      exact .document hdocument hentries
        ⟨(shows_kind _).gives hfold, (shows_seed _).gives hfold, (shows_board _).gives hfold,
          (shows_game _).gives hfold, (shows_pacing _).gives hfold⟩

end Config

end StepScript
