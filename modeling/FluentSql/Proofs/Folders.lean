import FluentSql.Proofs.ProviderRuns
import FluentSql.Proofs.Surveys
/-!
What is known of the files in a directory. Some of the names in it show, those of files that belong to no other
(`Folder`). The laws are those of a file system in which nobody else is at work (`Folder.Followed`): the directory can
be read, files in it can be removed, connecting to a file makes it, and nothing that is done with a connection makes
or removes a file that shows, as long as its statements reach no other file.

So a handle of a name makes the file of that name at most (`Handle.Shows`), and it does so if it is connected at all
(`Handle.openUp_shown`).
-/

namespace FluentSql.Embedded

open Text.Path

variable {C S W X T : Type}

/-- a directory with files -/
structure Folder (S : Type) where
  /-- a file with a name is in it, and belongs to no other one -/
  shown : S → String → Prop
  /-- which of its files a name leads to, if it leads to one -/
  place : String → Option String

/-- a library does to a directory what a folder says, beside what a survey says of the databases -/
structure Folder.Followed (f : Folder S) (v : Survey C S X T) (L : Library C S) (dir : String) : Prop where
  whole : ∀ {s n}, f.shown s n → isSidecar n = false
  placed : ∀ {n}, NamesDirectory dir → Plain n → f.place n = some n
  listed : ∀ s, (L.isDirectory dir s = false ∧ ∀ n, ¬ f.shown s n) ∨
    (L.isDirectory dir s = true ∧ ∃ ns, L.filesIn dir s = .ok ns ∧ ∀ n, f.shown s n ↔ n ∈ ns ∧ isSidecar n = false)
  present : ∀ {n s}, NamesDirectory dir → Plain n → isSidecar n = false →
    (L.isFile (join dir n) s = true ↔ f.shown s n)
  made : ∀ other s n, f.shown (L.makeDirectories other s).2 n ↔ f.shown s n
  /-- connecting to a file makes it, unless that fails -/
  opened : ∀ {name s x t}, L.openFile (join dir name) s = (x, t) →
    (∀ n, f.shown s n → f.shown t n) ∧ (∀ n, f.shown t n → f.shown s n ∨ f.place name = some n) ∧
      ∀ c n, x = .ok c → f.place name = some n → isSidecar n = false → f.shown t n
  performed : ∀ {α : Type} (r : Request α) {c name} (s), v.leads c (.file (join dir name)) → v.Stays r →
    ∀ n, f.shown (L.perform r c s).2.2 n ↔ f.shown s n
  closed : ∀ {c name} (s), v.leads c (.file (join dir name)) → ∀ n, f.shown (L.close c s).2 n ↔ f.shown s n
  /-- a file that is removed is gone; it is missed by the database that it was, or belonged to -/
  removed : ∀ {n s}, NamesDirectory dir → Plain n → L.isFile (join dir n) s = true →
    ∃ t, L.removeFile (join dir n) s = (.ok (), t) ∧ (∀ m, f.shown t m ↔ f.shown s m ∧ m ≠ n) ∧
      ∀ m, Plain m → n ≠ m → (∀ e ∈ sidecarEndings, n ≠ m ++ e) →
        v.kept (.file (join dir m)) t = v.kept (.file (join dir m)) s

/-- what is listed without repetitions is listed once -/
theorem nodup_eraseDups (l : List String) : l.eraseDups.Nodup := by
  match l with
  | [] => exact List.nodup_nil
  | a :: rest =>
    rw [List.eraseDups_cons, List.nodup_cons]
    refine ⟨fun ha => ?_, nodup_eraseDups _⟩
    rw [List.mem_eraseDups, List.mem_filter] at ha
    simp at ha
termination_by l.length
decreasing_by exact Nat.lt_succ_of_le (List.length_filter_le _ _)

/-- a listing without repetitions that is sorted is in ascending order -/
theorem ascending_listing (l : List String) :
    ((l.eraseDups).mergeSort fun a b => decide (a ≤ b)).Pairwise (· < ·) := by
  have hle : ((l.eraseDups).mergeSort fun a b => decide (a ≤ b)).Pairwise fun a b => decide (a ≤ b) = true := by
    refine List.pairwise_mergeSort (fun a b c hab hbc => ?_) (fun a b => ?_) _
    · rw [decide_eq_true_eq] at hab hbc ⊢
      exact String.le_trans hab hbc
    · rw [Bool.or_eq_true, decide_eq_true_eq, decide_eq_true_eq]
      exact String.le_total a b
  have hne : ((l.eraseDups).mergeSort fun a b => decide (a ≤ b)).Pairwise fun a b => a ≠ b :=
    (List.mergeSort_perm _ _).pairwise_iff (fun hab => Ne.symm hab) |>.2 (nodup_eraseDups l)
  refine (hle.and hne).imp fun {a b} h => ?_
  rw [decide_eq_true_eq] at h
  exact Std.lt_of_le_of_ne h.1 h.2

namespace Handle

variable {L : Library C S} {v : Survey C S X T} {f : Folder S} {dir name : String} {grown : Option String} {α : Type}
  {p q : Handle C × S × W}

/-- files that show stay, and no others come but perhaps one, where a handle sits -/
def Shows (f : Folder S) (v : Survey C S X T) (location : Location) (grown : Option String) (p q : Handle C × S × W) :
    Prop :=
  Sits v location p → Sits v location q ∧ (∀ n, f.shown p.2.1 n → f.shown q.2.1 n) ∧
    ∀ n, f.shown q.2.1 n → f.shown p.2.1 n ∨ grown = some n

theorem shows_stepwise (f : Folder S) (v : Survey C S X T) (location : Location) (grown : Option String) :
    Stepwise (Shows (W := W) f v location grown) where
  refl _ h := ⟨h, fun _ hn => hn, fun _ hn => .inl hn⟩
  trans first second h :=
    have ⟨hfirst, hstay, hcome⟩ := first h
    have ⟨hsecond, hstay', hcome'⟩ := second hfirst
    ⟨hsecond, fun n hn => hstay' n (hstay n hn), fun n hn => (hcome' n hn).elim (hcome n) .inr⟩

/-- what leads somewhere without a change of what shows -/
theorem shows_of_same {location : Location} (hsits : Sits v location p → Sits v location q)
    (hsame : Sits v location p → ∀ n, f.shown q.2.1 n ↔ f.shown p.2.1 n) : Shows f v location grown p q := fun h =>
  ⟨hsits h, fun n hn => (hsame h n).2 hn, fun n hn => .inl ((hsame h n).1 hn)⟩

theorem shows_of_kept {location : Location} (hlocation : q.1.location = p.1.location)
    (hconnection : q.1.connection = p.1.connection) (hengine : q.2.1 = p.2.1) : Shows f v location grown p q :=
  shows_of_same (fun h => ⟨hlocation.trans h.located, fun c hc => h.leads c (hconnection.symm.trans hc)⟩) fun _ _ => by
    rw [hengine]

section

variable (hf : f.Followed v L dir) (hv : v.Followed L)

include hf hv

theorem request_shows (r : Request α) (hstays : v.Stays r) :
    (request L r : Act C S W α).Respects (Shows f v (.file (join dir name)) grown) := fun p =>
  shows_of_same (fun h => (request_minds hv r hstays p h).1) fun h n => by
    unfold request
    split
    · rename_i c hc _
      exact hf.performed r p.2.1 (h.leads c hc) hstays n
    · exact Iff.rfl

theorem close_shows [Reporting W] (p : Handle C × S × W) :
    Shows f v (.file (join dir name)) grown p (close L p) :=
  shows_of_same (fun h => (close_minds hv (by simp) p h).1) fun h n => by
    cases hc : p.1.connection with
    | none => rw [close_of_none hc]
    | some c =>
      have hl : p.1.location ≠ .own := by rw [h.located]; simp
      obtain ⟨w, hclose⟩ := close_of_some (L := L) hl hc
      rw [hclose]
      exact hf.closed p.2.1 (h.leads c hc) n

omit hv in
/-- what connecting to a file makes of what shows -/
theorem connect_shown {s t : S} {x : Except DbError C} (h : connect L (.file (join dir name)) s = (x, t)) :
    (∀ n, f.shown s n → f.shown t n) ∧ (∀ n, f.shown t n → f.shown s n ∨ f.place name = some n) ∧
      ∀ c n, x = .ok c → f.place name = some n → isSidecar n = false → f.shown t n := by
  have hmade : ∀ {u : S} {y : Except IoFault Unit}, prepare L (.file (join dir name)) s = (y, u) →
      ∀ n, f.shown u n ↔ f.shown s n := by
    intro u y hprepare n
    rcases prepare_cases L (.file (join dir name)) s with hsame | ⟨other, hdir⟩
    · rw [hprepare] at hsame
      cases hsame
      exact Iff.rfl
    · have hkept := hf.made other s n
      rw [← hdir, hprepare] at hkept
      exact hkept
  cases x with
  | ok c =>
    obtain ⟨u, hprepare, hopen⟩ := connect_made h
    obtain ⟨hstay, hcome, hnew⟩ := hf.opened hopen
    refine ⟨fun n hn => hstay n ((hmade hprepare n).2 hn), fun n hn => (hcome n hn).imp_left (hmade hprepare n).1, ?_⟩
    intro d n _ hplace hwhole
    exact hnew c n rfl hplace hwhole
  | error e =>
    rcases connect_refused h with ⟨why, hprepare⟩ | ⟨u, why, hprepare, hopen⟩
    · exact ⟨fun n hn => (hmade hprepare n).2 hn, fun n hn => .inl ((hmade hprepare n).1 hn),
        fun c n hc => by cases hc⟩
    · obtain ⟨hstay, hcome, -⟩ := hf.opened hopen
      exact ⟨fun n hn => hstay n ((hmade hprepare n).2 hn), fun n hn => (hcome n hn).imp_left (hmade hprepare n).1,
        fun c n hc => by cases hc⟩

theorem connected_shows (p : Handle C × S × W) :
    Shows f v (.file (join dir name)) (f.place name) p (connected L p).2 := by
  intro h
  have hsits := (connected_minds hv (by simp) p h).1
  cases hc : p.1.connection with
  | some c =>
    rw [connected_of_some hc]
    exact (shows_stepwise f v _ _).refl p h
  | none =>
    rcases hconnect : connect L p.1.location p.2.1 with ⟨e | c, t⟩
    · rw [connected_of_error hc hconnect] at hsits ⊢
      rw [h.located] at hconnect
      obtain ⟨hstay, hcome, -⟩ := connect_shown hf hconnect
      exact ⟨hsits, hstay, hcome⟩
    · rw [connected_of_ok hc hconnect] at hsits ⊢
      rw [h.located] at hconnect
      obtain ⟨hstay, hcome, -⟩ := connect_shown hf hconnect
      exact ⟨hsits, hstay, hcome⟩

variable [Reporting W]

theorem shows_allows :
    Allows L (fun sql => ¬ v.reaches sql) (Shows (W := W) f v (.file (join dir name)) grown) where
  stepwise := shows_stepwise f v _ _
  emit _ _ := shows_of_kept rfl rfl rfl
  note _ _ := shows_of_kept rfl rfl rfl
  request r sql htext hsql := request_shows hf hv r fun other hother => by
    rw [htext] at hother
    cases hother
    exact hsql
  own sql hsql := request_shows hf hv _ fun other hother => by
    cases hother
    exact hv.own sql hsql
  readVersion := request_shows hf hv _ fun _ htext => by cases htext
  writeVersion _ := request_shows hf hv _ fun _ htext => by cases htext
  around p q h hp :=
    have ⟨hq, hstay, hcome⟩ := h ⟨hp.located, hp.leads⟩
    ⟨⟨hq.located, hq.leads⟩, hstay, hcome⟩

/-- **An opening makes the file of its name at most.** -/
theorem openUp_shows {p : Handle C × S × W} (hasks : p.1.hooks.Ask fun s => ¬ v.reaches s.text) :
    Shows f v (.file (join dir name)) (f.place name) p (openUp L p).2 :=
  (shows_allows hf hv).openUp hasks (connected_shows hf hv p) (fun _ => shows_of_kept rfl rfl rfl) (close_shows hf hv)

/-- **A handle that has been connected has a file**, whatever came of the opening. -/
theorem openUp_shown {p q : Handle C × S × W} {n : String} (hasks : p.1.hooks.Ask fun s => ¬ v.reaches s.text)
    (hsits : Sits v (.file (join dir name)) p) (hclosed : p.1.isOpen = false) (hnone : p.1.connection = none)
    (hconnected : connected L p = (.ok (), q)) (hplace : f.place name = some n) (hwhole : isSidecar n = false) :
    f.shown (openUp L p).2.2.1 n := by
  have hhooks : (connected L p).2.1.hooks = p.1.hooks := connected_hooks p
  have hq : Shows f v (.file (join dir name)) (f.place name) p (connected L p).2 := connected_shows hf hv p
  rw [hconnected] at hhooks hq
  have hshown : f.shown q.2.1 n := by
    obtain ⟨c, s, hconnect, rfl⟩ := connected_made hnone hconnected
    rw [hsits.located] at hconnect
    exact (connect_shown hf hconnect).2.2 c n rfl hplace hwhole
  have hafter : Shows f v (.file (join dir name)) none q (orClosed L (runLifecycle L (raised q))).2 :=
    (shows_allows hf hv).connectedUp (hhooks ▸ hasks) (fun _ => shows_of_kept rfl rfl rfl) (close_shows hf hv)
  rw [openUp_eq, hclosed, if_neg Bool.false_ne_true, start_eq, hconnected]
  exact (hafter (hq hsits).1).2.1 n hshown

omit hv [Reporting W] in
/-- **What shows is listed**, in ascending order. -/
theorem listFiles_shown (s : S) :
    ∃ ns, listFiles L dir s = .ok ns ∧ ns.Pairwise (· < ·) ∧ ∀ n, n ∈ ns ↔ f.shown s n := by
  unfold listFiles
  rcases hf.listed s with ⟨hmissing, hnone⟩ | ⟨hthere, ns, hfiles, hshown⟩
  · rw [if_neg (by rw [hmissing]; exact Bool.false_ne_true)]
    exact ⟨[], rfl, List.Pairwise.nil, fun n => ⟨fun hn => (by cases hn), fun hn => absurd hn (hnone n)⟩⟩
  · rw [if_pos hthere, hfiles]
    refine ⟨_, rfl, ascending_listing _, fun n => ?_⟩
    rw [List.mem_mergeSort, List.mem_eraseDups, List.mem_filter, hshown n]
    simp

/-- a statement makes no file -/
theorem ask_shows {s : Statement} (hs : ¬ v.reaches s.text) :
    ((channel L).ask s : Act C S W StatementReply).Respects (Shows f v (.file (join dir name)) none) :=
  (shows_allows hf hv).channel.ask (shows_stepwise f v _ _) hs

end

end Handle

end FluentSql.Embedded
