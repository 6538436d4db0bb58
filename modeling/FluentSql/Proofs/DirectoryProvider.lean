import FluentSql.Proofs.Cabinet
/-!
A provider of a directory as a set of names. What shows in the directory are the names that were opened and not
dropped since (`Provider.Stocked`): an opening adds its name and no other, statements add none, and a drop takes its
name away with the files that belong to it, which are those of no other database. Main result: `directory_provider`.
-/

namespace FluentSql.Embedded

open Text.Path

variable {C S W X T : Type} {L : Library C S} {v : Survey C S X T} {f : Folder S} {dir name : String}

/-- what a deed makes of the names on the shelf -/
def Deed.shelve (held : List String) : Deed → List String
  | opened name _ => name :: held
  | dropped name => held.filter fun x => x != name
  | _ => held

/-- the names that were opened and not dropped since -/
def shelved (deeds : List Deed) : List String := deeds.foldl Deed.shelve []

/-- a name that a database in a directory may have -/
structure IsShelfName (name : String) : Prop extends Plain name where
  whole : isSidecar name = false

namespace Provider

open Handle

/-! ## Drops -/

section

variable (hf : f.Followed v L dir) (hdir : NamesDirectory dir) (hname : IsShelfName name)

include hf hdir hname

/-- the files that belong to a database are removed, and no other database misses them -/
theorem removeThose_spares {endings : List String} (hendings : ∀ e ∈ endings, e ∈ sidecarEndings) (s : S) :
    ∃ t, removeThose L (endings.map fun e => join dir (name ++ e)) s = (.ok (), t) ∧
      (∀ m, f.shown t m ↔ f.shown s m) ∧
      ∀ m, IsShelfName m → m ≠ name → v.kept (.file (join dir m)) t = v.kept (.file (join dir m)) s := by
  induction endings generalizing s with
  | nil => exact ⟨s, rfl, fun _ => Iff.rfl, fun _ _ _ => rfl⟩
  | cons e rest ih =>
    have he := hendings e List.mem_cons_self
    have hrest : ∀ e ∈ rest, e ∈ sidecarEndings := fun e he => hendings e (List.mem_cons_of_mem _ he)
    rw [List.map_cons, removeThose]
    by_cases hfile : L.isFile (join dir (name ++ e)) s = true
    · obtain ⟨t, hremove, hshown, hkept⟩ := hf.removed hdir (plain_sidecar hname.toPlain he) hfile
      obtain ⟨u, hrun, hshown', hkept'⟩ := ih hrest t
      rw [if_pos hfile, hremove]
      refine ⟨u, hrun, fun m => ?_, fun m hm hne => ?_⟩
      · rw [hshown' m, hshown m]
        refine and_iff_left_of_imp fun hm heq => ?_
        have hsidecar := hf.whole hm
        rw [heq, isSidecar_append name he] at hsidecar
        cases hsidecar
      · have hbeside : name ++ e ≠ m := by
          rintro rfl
          have hsidecar := hm.whole
          rw [isSidecar_append name he] at hsidecar
          cases hsidecar
        exact (hkept' m hm hne).trans (hkept m hm.toPlain hbeside fun e' he' heq =>
          hne (sidecar_owner he he' heq).symm)
    · rw [if_neg hfile]
      exact ih hrest s

/-- **A drop takes its name away and nothing else**, and answers whether the name was there. -/
theorem dropDatabase_shown [Reporting W] (log : StatementLog) (d : Depot C S) (w : W) :
    let x := dropDatabase L ⟨.directory dir, log⟩ name (d, w)
    (∃ b, x.1 = .ok b ∧ (b = true ↔ f.shown d.engine name)) ∧
      (∀ m, f.shown x.2.1.engine m ↔ f.shown d.engine m ∧ m ≠ name) ∧
      ∀ m, IsShelfName m → m ≠ name →
        v.kept (.file (join dir m)) x.2.1.engine = v.kept (.file (join dir m)) d.engine := by
  intro x
  have hpresent := hf.present (s := d.engine) hdir hname.toPlain hname.whole
  have hx : x = removeDatabase L dir name (d, w) := rfl
  rw [hx]
  unfold removeDatabase
  dsimp only
  by_cases hfile : L.isFile (join dir name) d.engine = true
  · obtain ⟨t, hremove, hshown, hkept⟩ := hf.removed hdir hname.toPlain hfile
    obtain ⟨u, hrun, hshown', hkept'⟩ := removeThose_spares hf hdir hname (fun _ he => he) t
    rw [if_pos hfile, hremove]
    dsimp only
    rw [hrun]
    refine ⟨⟨true, rfl, iff_of_true rfl (hpresent.1 hfile)⟩, fun m => (hshown' m).trans (hshown m), fun m hm hne => ?_⟩
    refine (hkept' m hm hne).trans (hkept m hm.toPlain (Ne.symm hne) fun e he heq => ?_)
    have hsidecar := hname.whole
    rw [heq, isSidecar_append m he] at hsidecar
    cases hsidecar
  · have hmissing : ¬ f.shown d.engine name := fun hshown => hfile (hpresent.2 hshown)
    rw [if_neg hfile]
    refine ⟨⟨false, rfl, iff_of_false Bool.false_ne_true hmissing⟩, fun m => ?_, fun _ _ _ => rfl⟩
    refine (and_iff_left_of_imp fun hm heq => ?_).symm
    subst heq
    exact hmissing hm

end

/-! ## Runs -/

/-- handles sit where their names lead in a directory, in which certain names show -/
structure Stocked (v : Survey C S X T) (f : Folder S) (dir : String) (held : List String) (e : Holdings C S W) :
    Prop where
  lodged : ∀ x ∈ e.handles, Sits v (.file (join dir x.1)) (e.facing x.2)
  shown : ∀ n, f.shown e.depot.engine n ↔ n ∈ held

variable {held : List String} {e : Holdings C S W} {log : StatementLog}

/-- what is known of a handle is known wherever the handle is -/
theorem sits_anywhere {location : Location} {p q : Handle C × S × W} (h : Sits v location p) (hsame : q.1 = p.1) :
    Sits v location q := ⟨hsame ▸ h.located, fun c hc => h.leads c (hsame ▸ hc)⟩

/-- what makes no file at its place leaves the stock as it is -/
theorem Stocked.atPlace (h : Stocked v f dir held e) {g : Handle C × S × W → Reply × Handle C × S × W}
    (hshows : ∀ p, Shows f v (.file (join dir name)) none p (g p).2) (place : Nat) :
    Stocked v f dir held (Provider.atPlace name place g e).2 := by
  unfold Provider.atPlace
  cases hseat : seatOf name e.handles place with
  | none => exact h
  | some k =>
    obtain ⟨hsits, hstay, hcome⟩ := hshows (e.facing k) (h.lodged (name, k) (mem_of_seatOf hseat))
    refine ⟨?_, fun n => ?_⟩
    · exact forall_reseat (P := fun x => Sits v (.file (join dir x.1)) (_, _, _))
        (fun x hx => sits_anywhere (h.lodged x hx) rfl) hseat (sits_anywhere hsits rfl)
    · rw [← h.shown n]
      exact ⟨fun hn => (hcome n hn).elim id fun hnone => (by cases hnone), hstay n⟩

section

variable [Reporting W] (hf : f.Followed v L dir) (hv : v.Followed L) (hdir : NamesDirectory dir)

include hf hv hdir

/-- an opening that succeeds adds its name -/
theorem Stocked.opened (h : Stocked v f dir held e) (hname : IsShelfName name) {o : OpenOptions}
    (hasks : o.hooks.Ask fun s => ¬ v.reaches s.text)
    (hopened : (Provider.perform L ⟨.directory dir, log⟩ (.opened name o) e).1.isRefusal = false) :
    Stocked v f dir (name :: held) (Provider.perform L ⟨.directory dir, log⟩ (.opened name o) e).2 := by
  unfold Provider.perform at hopened ⊢
  dsimp only at hopened ⊢
  rw [openDatabase_eq] at hopened ⊢
  by_cases hblank : Text.blank name = true
  · rw [if_pos hblank] at hopened
    cases hopened
  · rw [if_neg hblank] at hopened ⊢
    dsimp only [acquire] at hopened ⊢
    generalize hp : ((newHandle ⟨.directory dir, log⟩ name o : Handle C), e.depot.engine,
      Reporting.emit (opening name o.version) e.outside) = p at hopened ⊢
    have hclosed : p.1.isOpen = false := by rw [← hp]; rfl
    have hnone : p.1.connection = none := by rw [← hp]; rfl
    have hsits : Sits v (.file (join dir name)) p := by
      rw [← hp]
      exact ⟨rfl, fun c hc => by cases hc⟩
    have hengine : p.2.1 = e.depot.engine := by rw [← hp]
    have hhooks : p.1.hooks.Ask fun s => ¬ v.reaches s.text := by
      rw [← hp]
      exact hasks
    have hplace := hf.placed hdir hname.toPlain
    obtain ⟨hafter, hstay, hcome⟩ := openUp_shows hf hv hhooks hsits
    rw [hengine] at hstay hcome
    rcases hc : connected L p with ⟨why | _, q⟩
    · -- a handle that is not connected is not opened
      rw [openUp_eq, hclosed, if_neg Bool.false_ne_true, start_eq, hc] at hopened
      cases hopened
    · have hshown := openUp_shown hf hv hhooks hsits hclosed hnone hc hplace hname.whole
      rcases hrun : openUp L p with ⟨why | _, r⟩
      · rw [hrun] at hopened
        cases hopened
      · rw [hrun] at hafter hstay hcome hshown
        refine ⟨fun x hx => ?_, fun n => ?_⟩
        · rcases List.mem_append.1 hx with hx | hx
          · exact sits_anywhere (h.lodged x hx) rfl
          · rw [List.mem_singleton.1 hx]
            exact sits_anywhere hafter rfl
        · rw [List.mem_cons, ← h.shown n]
          refine ⟨fun hn => ?_, fun hn => ?_⟩
          · rcases hcome n hn with hold | hnew
            · exact .inr hold
            · rw [hplace] at hnew
              exact .inl (Option.some.inj hnew).symm
          · rcases hn with rfl | hn
            · exact hshown
            · exact hstay n hn

/-- **A deed makes of the stock what it makes of the names.** -/
theorem Stocked.perform (h : Stocked v f dir held e) {d : Deed} (hname : IsShelfName d.name)
    (hasks : d.Asks fun sql => ¬ v.reaches sql)
    (hopened : (Provider.perform L ⟨.directory dir, log⟩ d e).1.isRefusal = false) :
    Stocked v f dir (d.shelve held) (Provider.perform L ⟨.directory dir, log⟩ d e).2 := by
  cases d with
  | opened name o => exact h.opened hf hv hdir hname hasks hopened
  | asked name place s => exact h.atPlace (fun p => ask_shows hf hv hasks p) place
  | closed name place => exact h.atPlace (fun p => close_shows hf hv p) place
  | dropped name =>
    obtain ⟨-, hshown, -⟩ := dropDatabase_shown (W := W) hf hdir hname log e.depot e.outside
    refine ⟨fun x hx => sits_anywhere (h.lodged x hx) rfl, fun n => (hshown n).trans ?_⟩
    rw [h.shown n, Deed.shelve, List.mem_filter, bne_iff_ne, Deed.name]

theorem Stocked.after {deeds : List Deed} (hnames : ∀ d ∈ deeds, IsShelfName d.name)
    (hasks : ∀ d ∈ deeds, d.Asks fun sql => ¬ v.reaches sql)
    (hopened : Provider.AllOpened L ⟨.directory dir, log⟩ deeds e) (h : Stocked v f dir held e) :
    Stocked v f dir (deeds.foldl Deed.shelve held) (Provider.after L ⟨.directory dir, log⟩ deeds e) := by
  induction deeds generalizing held e with
  | nil => exact h
  | cons d rest ih =>
    exact ih (fun d' hd' => hnames d' (List.mem_cons_of_mem d hd')) (fun d' hd' => hasks d' (List.mem_cons_of_mem d hd'))
      hopened.2 (h.perform hf hv hdir (hnames d List.mem_cons_self) (hasks d List.mem_cons_self) hopened.1)

/-- **A provider of a directory is a set of names.** In a directory in which nothing shows databases are opened, used,
closed and dropped in any order, by names of files that belong to no other; every opening succeeds, and no statement
reaches another file. Then the listing has exactly the names that were opened and not dropped since; a drop answers
whether the name is one of them, and takes nothing away but its name: all others stay listed, and their databases keep
what they hold. -/
theorem directory_provider (log : StatementLog) (d : Depot C S) (w : W) (hfresh : ∀ n, ¬ f.shown d.engine n)
    (deeds : List Deed) (hnames : ∀ x ∈ deeds, IsShelfName x.name)
    (hasks : ∀ x ∈ deeds, x.Asks fun sql => ¬ v.reaches sql) :
    let p : Provider := ⟨.directory dir, log⟩
    p.AllOpened L deeds (Holdings.none d w) →
      let e := p.after L deeds (Holdings.none d w)
      ∃ ns, (p.listNames L (e.depot, e.outside)).1 = .ok ns ∧ ns.Pairwise (· < ·) ∧ (∀ n, n ∈ ns ↔ n ∈ shelved deeds) ∧
        ∀ name, IsShelfName name →
          let x := p.dropDatabase L name (e.depot, e.outside)
          x.1 = .ok (decide (name ∈ shelved deeds)) ∧
            (∃ ms, (p.listNames L x.2).1 = .ok ms ∧ ∀ n, n ∈ ms ↔ n ∈ ns ∧ n ≠ name) ∧
            ∀ other, IsShelfName other → other ≠ name →
              v.kept (.file (join dir other)) x.2.1.engine = v.kept (.file (join dir other)) e.depot.engine := by
  intro p hopened e
  have hnone : Stocked v f dir [] (Holdings.none d w) :=
    ⟨fun x hx => (by cases hx), fun n => iff_of_false (hfresh n) List.not_mem_nil⟩
  have hstocked : Stocked v f dir (shelved deeds) e := hnone.after hf hv hdir hnames hasks hopened
  obtain ⟨ns, hlist, hascending, hmem⟩ := listFiles_shown hf e.depot.engine
  refine ⟨ns, hlist, hascending, fun n => (hmem n).trans (hstocked.shown n), ?_⟩
  intro name hname x
  obtain ⟨⟨b, hanswer, hb⟩, hshown, hkept⟩ := dropDatabase_shown (W := W) hf hdir hname log e.depot e.outside
  obtain ⟨ms, hlist', -, hmem'⟩ := listFiles_shown hf x.2.1.engine
  refine ⟨?_, ⟨ms, hlist', fun n => ?_⟩, hkept⟩
  · have hheld : b = decide (name ∈ shelved deeds) := by
      rw [Bool.eq_iff_iff, hb, hstocked.shown name, decide_eq_true_eq]
    rw [← hheld]
    exact hanswer
  · rw [hmem' n, hmem n]
    exact hshown n

end

/-- two databases are opened in a new directory, and the first one is dropped -/
def twoOpened : List Deed := [.opened "a.db" ⟨1, Hooks.none⟩, .opened "b.db" ⟨1, Hooks.none⟩, .dropped "a.db"]

theorem twoOpened_listed :
    let p : Provider := ⟨.directory "data", .standard⟩
    let start := Holdings.none Cabinet.emptyDepot (⟨[]⟩ : Notebook)
    let e := p.after Cabinet.library twoOpened start
    p.AllOpened Cabinet.library twoOpened start ∧
      (∃ ns, (p.listNames Cabinet.library (e.depot, e.outside)).1 = .ok ns ∧ ∀ n, n ∈ ns ↔ n ∈ ["b.db"]) ∧
      (p.dropDatabase Cabinet.library "b.db" (e.depot, e.outside)).1 = .ok true ∧
      (p.dropDatabase Cabinet.library "a.db" (e.depot, e.outside)).1 = .ok false := by
  intro p start e
  have hfit : ∀ x ∈ ["a.db", "b.db"], IsShelfName x := by
    intro x hx
    rcases List.mem_cons.1 hx with rfl | hx
    · exact ⟨⟨by decide, by decide, by decide, by decide⟩, by decide⟩
    · rw [List.mem_singleton.1 hx]
      exact ⟨⟨by decide, by decide, by decide, by decide⟩, by decide⟩
  have hnames : ∀ x ∈ twoOpened, IsShelfName x.name := by
    intro x hx
    have hall : ∀ n ∈ twoOpened.map Deed.name, n ∈ ["a.db", "b.db"] := by decide
    exact hfit x.name (hall x.name (List.mem_map_of_mem hx))
  have hasks : ∀ x ∈ twoOpened, x.Asks fun sql => ¬ Cabinet.survey.reaches sql := by
    intro x hx
    simp only [twoOpened, List.mem_cons, List.not_mem_nil, or_false] at hx
    rcases hx with rfl | rfl | rfl
    · exact Hooks.none_asks _
    · exact Hooks.none_asks _
    · trivial
  have hopened : p.AllOpened Cabinet.library twoOpened start :=
    ⟨by decide +kernel, by decide +kernel, by decide +kernel, trivial⟩
  have hempty : ∀ n, ¬ (Cabinet.folder "data").shown Cabinet.empty n := fun n h => by cases h.1
  obtain ⟨ns, hlist, -, hmem, hdrop⟩ := directory_provider (Cabinet.folder_followed "data") Cabinet.survey_followed
    ⟨by decide, by decide⟩ .standard Cabinet.emptyDepot (⟨[]⟩ : Notebook) hempty twoOpened hnames hasks hopened
  have hshelved : shelved twoOpened = ["b.db"] := by decide
  rw [hshelved] at hmem hdrop
  exact ⟨hopened, ⟨ns, hlist, hmem⟩, (hdrop "b.db" (hfit "b.db" (by decide))).1,
    (hdrop "a.db" (hfit "a.db" (by decide))).1⟩

/-- a database whose name ends like the log of another one is opened, but it is not in the listing; nor is any where the
text of the directory is empty or begins like an address -/
theorem sidecar_unlisted :
    let p (dir : String) : Provider := ⟨.directory dir, .standard⟩
    let deeds (name : String) : List Deed := [.opened name ⟨1, Hooks.none⟩]
    let start := Holdings.none ⟨Storage.empty, []⟩ (⟨[]⟩ : Notebook)
    let unlisted (dir name : String) :=
      let e := (p dir).after Storage.library (deeds name) start
      (p dir).AllOpened Storage.library (deeds name) start ∧ name ∈ shelved (deeds name) ∧
        ((p dir).listNames Storage.library (e.depot, e.outside)).1 = .ok []
    (Plain "a-wal" ∧ Text.blank "a-wal" = false ∧ unlisted "data" "a-wal") ∧
      (Plain "a" ∧ isSidecar "a" = false ∧ unlisted "" "a" ∧ unlisted "file:." "a") := by
  intro p deeds start unlisted
  refine ⟨⟨⟨by decide, by decide, by decide, by decide⟩, by decide, ?_⟩, ⟨by decide, by decide, by decide, by decide⟩,
    by decide, ?_, ?_⟩
  · exact ⟨⟨by decide +kernel, trivial⟩, by decide, eq_ok_of_toOption (by decide +kernel)⟩
  · exact ⟨⟨by decide +kernel, trivial⟩, by decide, eq_ok_of_toOption (by decide +kernel)⟩
  · exact ⟨⟨by decide +kernel, trivial⟩, by decide, eq_ok_of_toOption (by decide +kernel)⟩

end Provider

end FluentSql.Embedded
