import PyAuth.Sdk.Rewriting

/-!
# Where device information comes from

A client labels the device information it has collected, adds the public
address, stores it as a snapshot and reads it back, where numbers may have
been rounded to doubles.  `ComesFrom` is what remains of the collection
through all this, and `SnapshotsFrom` says it of every snapshot in a root.
-/

namespace PyAuth.Sdk

open Support Client

/-! ## Rounded numbers -/

/-- A number beyond the range of doubles is lost. -/
def keepFinite (x : Double) : Json :=
  if Json.finiteNumber x then .float x else .null

/-- A value with its numbers as doubles. -/
def rounded (v : Json) : Json :=
  v.mapNumbers keepFinite fun n => keepFinite (.ofInt n)

/-- `f` changes nothing but the precision of numbers. -/
structure Rounding (f : Json → Json) : Prop where
  dict?_eq : ∀ v, (f v).dict? = v.dict?.map (·.mapValues f)
  rounded_eq : ∀ v, rounded (f v) = rounded v

namespace Rounding

theorem refl : Rounding fun v => v where
  dict?_eq v := by
    have hid : ∀ d : Dict String Json, d.mapValues (fun v => v) = d :=
      fun d => Dict.ext (by simp [Dict.mapValues])
    cases v.dict? with
    | none => rfl
    | some d => rw [Option.map_some, hid]
  rounded_eq _ := rfl

theorem asDoubles : Rounding Json.asDoubles where
  dict?_eq := Json.dict?_asDoubles
  rounded_eq v := by
    rw [rounded, rounded, Json.asDoubles, Json.mapNumbers_mapNumbers]
    simp only [Json.mapNumbers]

theorem stringify : Rounding TypeScript.stringify where
  dict?_eq := by
    apply Json.dict?_mapNumbers
    constructor
    · intro x
      by_cases hx : Json.finiteNumber x = true <;> simp [hx, Json.dict?]
    · intro n
      rfl
  rounded_eq v := by
    rw [rounded, rounded, TypeScript.stringify, Json.mapNumbers_mapNumbers]
    simp only [Json.mapNumbers]
    congr 1
    funext x
    by_cases hx : Json.finiteNumber x = true
    · simp only [hx, if_true, Json.mapNumbers]
    · simp [keepFinite, hx, Json.mapNumbers]

theorem comp {f g : Json → Json} (hf : Rounding f) (hg : Rounding g) :
    Rounding fun v => f (g v) where
  dict?_eq v := by
    rw [hf.dict?_eq, hg.dict?_eq, Option.map_map]
    congr 1
    funext d
    exact Dict.ext (by simp [Dict.mapValues])
  rounded_eq v := by rw [hf.rounded_eq, hg.rounded_eq]

end Rounding

/-! ## Device information -/

/-- The members every client sets itself. -/
def labelKeys : List String := ["software_version", "sdk"]

/-- The `network` block. -/
def networkOf (info : Dict String Json) : Dict String Json :=
  ((info.get "network").bind Json.dict?).getD .empty

/-- `info` is the collected `c` but for its labels, the public address and the
precision of numbers. -/
structure ComesFrom (c info : Dict String Json) : Prop where
  members : ∀ k, k ∉ labelKeys → k ≠ "network" →
    (info.get k).map rounded = (c.get k).map rounded
  network : ∀ m, m ≠ "public_ip" →
    ((networkOf info).get m).map rounded = ((networkOf c).get m).map rounded

/-- `info` comes from one of the collections `C`. -/
def FromCollection (C : Set (Dict String Json)) (info : Dict String Json) :
    Prop :=
  ∃ c ∈ C, ComesFrom c info

namespace ComesFrom

variable {c info info' : Dict String Json}

theorem refl (c : Dict String Json) : ComesFrom c c :=
  ⟨fun _ _ _ => rfl, fun _ _ => rfl⟩

/-- Only the labels have changed. -/
theorem of_labels (h : ComesFrom c info)
    (hinfo : ∀ k, k ∉ labelKeys → info'.get k = info.get k) :
    ComesFrom c info' := by
  constructor
  · intro k hk hnetwork
    rw [hinfo k hk]
    exact h.members k hk hnetwork
  · intro m hm
    have hnetwork : networkOf info' = networkOf info := by
      rw [networkOf, hinfo "network" (by decide), networkOf]
    rw [hnetwork]
    exact h.network m hm

/-- Only the public address has changed. -/
theorem of_publicIp (h : ComesFrom c info)
    (hinfo : ∀ k, k ∉ labelKeys → k ≠ "network" → info'.get k = info.get k)
    (hnetwork : ∀ m, m ≠ "public_ip" →
      (networkOf info').get m = (networkOf info).get m) :
    ComesFrom c info' := by
  constructor
  · intro k hk hne
    rw [hinfo k hk hne]
    exact h.members k hk hne
  · intro m hm
    rw [hnetwork m hm]
    exact h.network m hm

theorem set_label (h : ComesFrom c info) {k : String} (hk : k ∈ labelKeys)
    (v : Json) : ComesFrom c (info.set k v) := by
  apply h.of_labels
  intro k' hk'
  exact Dict.get_set_of_ne fun heq => hk' (heq ▸ hk)

theorem set_publicIp (h : ComesFrom c info) (ip : Json) :
    ComesFrom c (info.set "network"
      (.ofDict ((networkOf info).set "public_ip" ip))) := by
  apply h.of_publicIp
  · intro k _ hk
    exact Dict.get_set_of_ne hk
  · intro m hm
    simp [networkOf, Dict.get_set_of_ne hm]

theorem mapValues (h : ComesFrom c info) {f : Json → Json}
    (hf : Rounding f) : ComesFrom c (info.mapValues f) := by
  have hmap : ∀ (d : Dict String Json) k,
      ((d.mapValues f).get k).map rounded = (d.get k).map rounded := by
    intro d k
    rw [Dict.get_mapValues, Option.map_map]
    congr 1
    funext v
    exact hf.rounded_eq v
  constructor
  · intro k hk hnetwork
    rw [hmap]
    exact h.members k hk hnetwork
  · intro m hm
    have hnetwork : networkOf (info.mapValues f) =
        (networkOf info).mapValues f := by
      rw [networkOf, networkOf, Dict.get_mapValues]
      cases info.get "network" with
      | none => rfl
      | some v =>
          rw [Option.map_some, Option.bind_some, Option.bind_some,
            hf.dict?_eq]
          cases v.dict? <;> rfl
    rw [hnetwork, hmap]
    exact h.network m hm

/-- A collection with a member of its own is never confused with the
placeholder. -/
theorem exists_member (h : ComesFrom c info)
    (hc : ∃ k, k ∉ labelKeys ∧ k ≠ "network" ∧ c.get k ≠ none) :
    ∃ k, k ∉ labelKeys ∧ info.get k ≠ none := by
  obtain ⟨k, hk, hne, hget⟩ := hc
  refine ⟨k, hk, fun hnone => hget ?_⟩
  have hmem := h.members k hk hne
  rw [hnone, Option.map_none, eq_comm, Option.map_eq_none_iff] at hmem
  exact hmem

end ComesFrom

namespace FromCollection

variable {C : Set (Dict String Json)} {info : Dict String Json}

theorem of_mem (h : info ∈ C) : FromCollection C info := ⟨info, h, .refl info⟩

theorem imp (h : FromCollection C info) {info' : Dict String Json}
    (himp : ∀ c, ComesFrom c info → ComesFrom c info') :
    FromCollection C info' := by
  obtain ⟨c, hc, hfrom⟩ := h
  exact ⟨c, hc, himp c hfrom⟩

theorem mapValues (h : FromCollection C info) {f : Json → Json}
    (hf : Rounding f) : FromCollection C (info.mapValues f) :=
  h.imp fun _ hc => hc.mapValues hf

end FromCollection

/-- A value which is an object up to rounding is the object it denotes. -/
theorem eq_ofDict_of_rounded_eq {v : Json} {d b : Dict String Json}
    (h : rounded v = rounded (.ofDict b)) (hd : v.dict? = some d) :
    v = .ofDict d := by
  cases v with
  | obj members =>
      rw [rounded, rounded, Json.ofDict, Json.mapNumbers, Json.mapNumbers,
        Json.mapMembers_eq, Json.mapMembers_eq, Json.obj.injEq] at h
      have hkeys : members.map Prod.fst = b.entries.map Prod.fst := by
        simpa [Function.comp_def] using congrArg (List.map Prod.fst) h
      have hnodup : (members.map Prod.fst).Nodup := hkeys ▸ b.nodup
      have hlist : Dict.ofList members = ⟨members, hnodup⟩ :=
        Dict.ofList_entries ⟨members, hnodup⟩
      rw [Json.dict?, hlist, Option.some.injEq] at hd
      rw [← hd, Json.ofDict]
  | null | bool | int | float | str | arr => simp [Json.dict?] at hd

/-! ## Snapshots -/

variable {C : Set (Dict String Json)}

/-- The snapshot of a row, if any, comes from a collection. -/
def RowFrom (C : Set (Dict String Json)) (row : Row) : Prop :=
  ∀ s, row.get "device_info_snapshot" = some s →
    ∃ info, s.dict? = some info ∧ FromCollection C info

/-- So do the snapshots of all objects in the root, but for the member `s`. -/
def SnapshotsFromBut (C : Set (Dict String Json)) (s : Option String)
    (root : Root) : Prop :=
  ∀ k v row, some k ≠ s → root.get k = some v → v.dict? = some row →
    RowFrom C row

abbrev SnapshotsFrom (C : Set (Dict String Json)) (root : Root) : Prop :=
  SnapshotsFromBut C none root

theorem rowFrom_empty : RowFrom C .empty := by
  intro s hs
  simp at hs

namespace RowFrom

variable {row : Row}

theorem of_get_eq {row' : Row} (h : RowFrom C row)
    (hget : row'.get "device_info_snapshot" = none ∨
      row'.get "device_info_snapshot" = row.get "device_info_snapshot") :
    RowFrom C row' := by
  intro s hs
  rcases hget with hnone | heq
  · rw [hnone] at hs
    contradiction
  · exact h s (heq ▸ hs)

theorem of_info {info : Dict String Json} (h : FromCollection C info)
    (hget : row.get "device_info_snapshot" = some (.ofDict info)) :
    RowFrom C row := by
  intro s hs
  rw [hget, Option.some.injEq] at hs
  exact ⟨info, by rw [← hs, Json.dict?_ofDict], h⟩

theorem of_none (h : row.get "device_info_snapshot" = none) :
    RowFrom C row :=
  rowFrom_empty.of_get_eq (Or.inl h)

theorem mapValues (h : RowFrom C row) {f : Json → Json} (hf : Rounding f) :
    RowFrom C (row.mapValues f) := by
  intro s hs
  rw [Dict.get_mapValues, Option.map_eq_some_iff] at hs
  obtain ⟨s', hs', rfl⟩ := hs
  obtain ⟨info, hinfo, hfrom⟩ := h s' hs'
  exact ⟨_, by rw [hf.dict?_eq, hinfo, Option.map_some],
    hfrom.mapValues hf⟩

end RowFrom

/-- Every member of `root'` is one of `root`, up to rounding. -/
def Within (root root' : Root) : Prop :=
  ∃ f, Rounding f ∧ ∀ k, root'.get k = none ∨
    root'.get k = (root.get k).map f

namespace Within

variable {root root' root'' : Root}

theorem refl (root : Root) : Within root root :=
  ⟨fun v => v, .refl, fun k => Or.inr (by simp)⟩

theorem mapValues (root : Root) {f : Json → Json} (hf : Rounding f) :
    Within root (root.mapValues f) :=
  ⟨f, hf, fun k => Or.inr (Dict.get_mapValues f root k)⟩

theorem erase (h : Within root root') (k : String) :
    Within root (root'.erase k) := by
  obtain ⟨f, hf, hget⟩ := h
  refine ⟨f, hf, fun x => ?_⟩
  rw [Dict.get_erase]
  split
  · exact Or.inl rfl
  · exact hget x

theorem eraseAll (h : Within root root') (ks : List String) :
    Within root (root'.eraseAll ks) := by
  obtain ⟨f, hf, hget⟩ := h
  refine ⟨f, hf, fun x => ?_⟩
  rw [Dict.get_eraseAll]
  split
  · exact Or.inl rfl
  · exact hget x

end Within

namespace SnapshotsFromBut

variable {s : Option String} {root root' : Root}

theorem within (h : SnapshotsFromBut C s root) (hroot : Within root root') :
    SnapshotsFromBut C s root' := by
  obtain ⟨f, hf, hget⟩ := hroot
  intro k v row hks hk hrow
  rcases hget k with hnone | heq
  · rw [hnone] at hk
    contradiction
  · rw [heq, Option.map_eq_some_iff] at hk
    obtain ⟨w, hw, rfl⟩ := hk
    rw [hf.dict?_eq, Option.map_eq_some_iff] at hrow
    obtain ⟨row', hrow', rfl⟩ := hrow
    exact (h k w row' hks hw hrow').mapValues hf

theorem but (h : SnapshotsFrom C root) (s : Option String) :
    SnapshotsFromBut C s root :=
  fun k v row _ => h k v row (by simp)

end SnapshotsFromBut

theorem snapshotsFrom_empty : SnapshotsFrom C .empty := by
  intro k v row _ hk
  simp at hk

section Rewriting

variable {isSpace : Char → Bool} {root root' : Root}
  {load : String → Option Row} {s : String} {row : Row}

/-- A loaded row has the snapshot of the member it was loaded from. -/
theorem rowFrom_of_load {s' : Option String}
    (hroot : SnapshotsFromBut C s' root) (hload : Loads isSpace root load)
    {t : String} {row : Row} (ht : load t = some row)
    (hkey : ∀ k, strip isSpace k = t → some k ≠ s') : RowFrom C row := by
  obtain ⟨k, v, hk, happ⟩ := hload.sound ht
  obtain ⟨-, hstrip, -, d, hd, rfl⟩ := appRow?_eq_some_iff.mp happ
  apply (hroot k v d (hkey k hstrip) hk hd).of_get_eq
  exact Or.inr (Dict.get_erase_of_ne (by decide))

theorem rowFrom_own (hroot : SnapshotsFrom C root)
    (hload : Loads isSpace root load) (s : String) :
    RowFrom C ((load s).getD .empty) := by
  cases hs : load s with
  | none => exact rowFrom_empty
  | some row => exact rowFrom_of_load hroot hload hs (by simp)

/-- A name whose row is found again under the same key, or never. -/
def KeepsKey (isSpace : Char → Bool) (s : String) : Prop :=
  strip isSpace s = s ∨ strip isSpace s = ""

instance (isSpace : Char → Bool) : DecidablePred (KeepsKey isSpace) := fun _ =>
  inferInstanceAs (Decidable (_ ∨ _))

/-- A rewriting which may put anything into the row of `s`. -/
theorem but_of_rewritten (hroot : SnapshotsFrom C root)
    (hload : Loads isSpace root load)
    (h : Rewritten root load s row root') :
    SnapshotsFromBut C (some s) root' := by
  intro k v d hks hk hd
  have hne : k ≠ s := fun heq => hks (congrArg some heq)
  rcases h.members hk hd with ⟨heq, -⟩ | ⟨-, hget⟩ | ⟨-, -, hget⟩
  · exact (hne heq).elim
  · exact rowFrom_of_load hroot hload hget (by simp)
  · exact hroot k v d (by simp) hget hd

/-- A rewriting which puts a good row in the place of any. -/
theorem snapshotsFrom_of_rewritten_but
    (hroot : SnapshotsFromBut C (some s) root)
    (hload : Loads isSpace root load) (h : Rewritten root load s row root')
    (hs : KeepsKey isSpace s) (hrow : RowFrom C row) :
    SnapshotsFrom C root' := by
  intro k v d _ hk hd
  rcases h.members hk hd with ⟨-, rfl⟩ | ⟨hne, hget⟩ | ⟨hne, -, hget⟩
  · exact hrow
  · apply rowFrom_of_load hroot hload hget
    rintro k' hstrip heq
    obtain rfl := Option.some.inj heq
    -- The name `s` would be loaded under itself, and `k` is another name.
    obtain ⟨-, hblank, -⟩ := hload.trimmed hget
    rcases hs with hs | hs
    · exact hne (hstrip.symm.trans hs)
    · exact hblank (hstrip.symm.trans hs)
  · exact hroot k v d (fun heq => hne (Option.some.inj heq)) hget hd

theorem snapshotsFrom_of_rewritten (hroot : SnapshotsFrom C root)
    (hload : Loads isSpace root load) (h : Rewritten root load s row root')
    (hrow : RowFrom C row) : SnapshotsFrom C root' := by
  intro k v d _ hk hd
  rcases h.members hk hd with ⟨-, rfl⟩ | ⟨hne, hget⟩ | ⟨-, -, hget⟩
  · exact hrow
  · exact rowFrom_of_load hroot hload hget (by simp)
  · exact hroot k v d (by simp) hget hd

end Rewriting

/-! ## What an operation does to the file -/

/-- What can be read stays, or nothing can be read any more. -/
def Keeps (content content' : Option Root) : Prop :=
  content' = content ∨ content' = none

/-- An operation has read the content, or taken it for empty, and has written
it back with the row of `s` changed by `f`. -/
def Rewrites (isSpace : Char → Bool) (content : Option Root) (s : String)
    (f : Row → Row) (content' : Option Root) : Prop :=
  ∃ root m load root' root'',
    (root = .empty ∨ content = some root) ∧ Within root m ∧
    Loads isSpace m load ∧ Rewritten m load s (f ((load s).getD .empty)) root' ∧
    content' = some root'' ∧ Within root' root''

/-- The snapshots in what can be read come from collections, but for those in
the member `s`. -/
def ContentFromBut (C : Set (Dict String Json)) (s : Option String)
    (content : Option Root) : Prop :=
  ∀ root, content = some root → SnapshotsFromBut C s root

abbrev ContentFrom (C : Set (Dict String Json)) (content : Option Root) :
    Prop :=
  ContentFromBut C none content

section Content

variable {isSpace : Char → Bool} {content content' : Option Root}
  {s : String} {f : Row → Row}

theorem Keeps.refl (content : Option Root) : Keeps content content :=
  Or.inl rfl

theorem Keeps.trans {content'' : Option Root} (h : Keeps content content')
    (h' : Keeps content' content'') : Keeps content content'' := by
  rcases h' with rfl | rfl
  · exact h
  · exact Or.inr rfl

theorem Rewrites.of_keeps {content'' : Option Root}
    (h : Keeps content content')
    (h' : Rewrites isSpace content' s f content'') :
    Rewrites isSpace content s f content'' := by
  obtain ⟨root, m, load, root', root'', hroot, hrest⟩ := h'
  refine ⟨root, m, load, root', root'', ?_, hrest⟩
  rcases hroot with hroot | hroot
  · exact Or.inl hroot
  · rcases h with rfl | rfl
    · exact Or.inr hroot
    · contradiction

theorem ContentFromBut.keeps {s : Option String}
    (h : ContentFromBut C s content) (hkeeps : Keeps content content') :
    ContentFromBut C s content' := by
  rcases hkeeps with rfl | rfl
  · exact h
  · intro root hroot
    contradiction

theorem ContentFromBut.but (h : ContentFrom C content) (s : Option String) :
    ContentFromBut C s content :=
  fun root hroot => .but (h root hroot) s

/-- What is rewritten. -/
theorem ContentFromBut.of_read {s : Option String} {root m : Root}
    (h : ContentFromBut C s content)
    (hroot : root = .empty ∨ content = some root) (hm : Within root m) :
    SnapshotsFromBut C s m := by
  rcases hroot with rfl | hroot
  · exact (SnapshotsFromBut.but snapshotsFrom_empty s).within hm
  · exact (h root hroot).within hm

theorem ContentFromBut.rewrites (h : ContentFrom C content)
    (hrewrites : Rewrites isSpace content s f content')
    (hf : ∀ sub, RowFrom C sub → RowFrom C (f sub)) :
    ContentFrom C content' := by
  obtain ⟨root, m, load, root', root'', hroot, hm, hload, hrewritten, rfl,
    hwithin⟩ := hrewrites
  have hsnap := h.of_read hroot hm
  rintro _ ⟨⟩
  exact SnapshotsFromBut.within (snapshotsFrom_of_rewritten hsnap hload
    hrewritten (hf _ (rowFrom_own hsnap hload s))) hwithin

theorem ContentFromBut.rewrites_but (h : ContentFrom C content)
    (hrewrites : Rewrites isSpace content s f content') :
    ContentFromBut C (some s) content' := by
  obtain ⟨root, m, load, root', root'', hroot, hm, hload, hrewritten, rfl,
    hwithin⟩ := hrewrites
  rintro _ ⟨⟩
  exact SnapshotsFromBut.within
    (but_of_rewritten (h.of_read hroot hm) hload hrewritten) hwithin

theorem ContentFromBut.rewrites_over (h : ContentFromBut C (some s) content)
    (hrewrites : Rewrites isSpace content s f content')
    (hs : KeepsKey isSpace s)
    (hf : ∀ sub, RowFrom C (f sub)) : ContentFrom C content' := by
  obtain ⟨root, m, load, root', root'', hroot, hm, hload, hrewritten, rfl,
    hwithin⟩ := hrewrites
  rintro _ ⟨⟩
  exact SnapshotsFromBut.within (snapshotsFrom_of_rewritten_but
    (h.of_read hroot hm) hload hrewritten hs (hf _)) hwithin

end Content

end PyAuth.Sdk
