import FluentSql.Proofs.Folders
import FluentSql.Proofs.VaultConduct
/-!
A world with a drawer for every location (`Cabinet`). In a drawer there is the vault of a database, with the number of
its connections; each connection has a cache of its own and works as the connections of this project do. A database in
memory is gone when nobody is connected to it, and a file is made by connecting to it.

The library of this world does to all databases what a survey says (`Cabinet.survey_followed`), and answers at the
addresses of a provider by what is kept there alone (`Cabinet.survey_determined`); in every directory it does what a
folder says (`Cabinet.folder_followed`).
-/

namespace FluentSql

open Engine Engine.Connection Embedded Text.Path

/-! ## Last parts -/

namespace Text.Path

/-- what stands behind the last slash of a path -/
def lastPart (path : String) : String :=
  String.ofList (path.toList.reverse.takeWhile fun c => c != '/').reverse

theorem lastPart_join (dir : String) {name : String} (h : Plain name) : lastPart (join dir name) = name := by
  have hall : ∀ c ∈ name.toList.reverse, (c != '/') = true := fun c hc => bne_iff_ne.2 fun heq =>
    h.noSlash (heq ▸ List.mem_reverse.1 hc)
  have hbehind : ∀ start : List Char, start = [] ∨ start.getLast? = some '/' →
      ((start ++ name.toList).reverse.takeWhile fun c => c != '/').reverse = name.toList := by
    intro start hstart
    rw [List.reverse_append, List.takeWhile_append_of_pos hall]
    rcases hstart with rfl | hlast
    · simp
    · obtain ⟨before, rfl⟩ := List.getLast?_eq_some_iff.1 hlast
      simp
  unfold lastPart join
  rw [if_neg (by rw [h.not_absolute]; exact Bool.false_ne_true)]
  refine String.ext ?_
  rw [String.toList_ofList]
  split
  · rename_i hends
    rw [String.toList_append]
    refine hbehind dir.toList ?_
    simpa using hends
  · rw [String.toList_append, String.toList_append]
    exact hbehind (dir.toList ++ "/".toList) (.inr List.getLast?_concat)

/-- plain names in a directory have different paths -/
theorem join_injective {dir n m : String} (hn : Plain n) (hm : Plain m) (h : join dir n = join dir m) : n = m := by
  rw [← lastPart_join dir hn, h, lastPart_join dir hm]

/-- the name of a file in a directory, if the file is there -/
def nameIn (dir path : String) : Option String :=
  if join dir (lastPart path) = path then some (lastPart path) else none

theorem nameIn_join (dir : String) {name : String} (h : Plain name) : nameIn dir (join dir name) = some name := by
  unfold nameIn
  rw [lastPart_join dir h, if_pos rfl]

theorem join_of_nameIn {dir path name : String} (h : nameIn dir path = some name) : join dir name = path := by
  unfold nameIn at h
  split at h
  · cases h
    assumption
  · cases h

end Text.Path

/-- keys have addresses of their own -/
theorem Embedded.Location.address_injective {number : Nat} {key other : String}
    (h : address number key = address number other) : key = other := by
  unfold address at h
  have hlist := congrArg String.toList h
  simp only [String.toList_append, List.append_assoc] at hlist
  exact String.ext (List.append_cancel_right (List.append_cancel_left (List.append_cancel_left (List.append_cancel_left
    hlist))))

/-! ## Drawers -/

/-- a database with its connections -/
structure Drawer where
  vault : Vault
  /-- how many connections there are -/
  holders : Nat
  /-- the connections so far have smaller numbers -/
  next : Nat

namespace Drawer

def empty : Drawer := ⟨Vault.empty, 0, 0⟩

/-- another vault in the drawer -/
def withVault (d : Drawer) (v : Vault) : Drawer := { d with vault := v }

/-- what is kept of a drawer at a location: a database in memory is gone when nobody is connected to it -/
def keptAt (d : Drawer) : Location → Drawer
  | .shared _ => if d.holders = 0 then empty else d
  | _ => d

/-- a number that neither a connection so far has nor one that is noted in the vault -/
def freshId (d : Drawer) : Nat :=
  d.vault.holds.foldr (fun h n => max (h.owner + 1) n) (max d.next (d.vault.writer.elim 0 fun w => w.id + 1))

variable {d : Drawer} {location : Location}

theorem keptAt_of_held (h : d.holders ≠ 0) (location : Location) : d.keptAt location = d := by
  cases location with
  | shared _ => exact if_neg h
  | _ => rfl

/-- however a drawer is kept, as many connections are known -/
theorem keptAt_holders (d : Drawer) (location : Location) : (d.keptAt location).holders = d.holders := by
  cases location with
  | shared _ =>
    show (if d.holders = 0 then empty else d).holders = d.holders
    split
    · rename_i hnone
      exact hnone.symm
    · rfl
  | _ => rfl

theorem le_foldr_owner (holds : List Hold) (n : Nat) : n ≤ holds.foldr (fun h k => max (h.owner + 1) k) n := by
  induction holds with
  | nil => exact Nat.le_refl n
  | cons h rest ih => exact Nat.le_trans ih (Nat.le_max_right _ _)

theorem owner_lt_foldr {holds : List Hold} {h : Hold} (hh : h ∈ holds) (n : Nat) :
    h.owner < holds.foldr (fun h k => max (h.owner + 1) k) n := by
  induction holds with
  | nil => cases hh
  | cons x rest ih =>
    rcases List.mem_cons.1 hh with rfl | hrest
    · exact Nat.le_max_left _ _
    · exact Nat.lt_of_lt_of_le (ih hrest) (Nat.le_max_right _ _)

/-- a fresh number belongs to nobody who is at work -/
theorem freshId_idle (d : Drawer) : d.vault.Idle d.freshId := by
  refine ⟨?_, ?_⟩
  · unfold Vault.isWriter
    cases hw : d.vault.writer with
    | none => rfl
    | some w =>
      have hlt : w.id < d.freshId := by
        unfold freshId
        rw [hw]
        calc w.id
          _ < w.id + 1 := Nat.lt_succ_self _
          _ ≤ max d.next (w.id + 1) := Nat.le_max_right _ _
          _ ≤ _ := le_foldr_owner _ _
      simpa using Nat.ne_of_lt hlt
  · unfold Vault.isActive
    rw [List.any_eq_false]
    intro h hh
    have hlt : h.owner < d.freshId := owner_lt_foldr hh _
    simpa using Nat.ne_of_lt hlt

end Drawer

/-! ## The world -/

/-- drawers, with the files and the directories that there are -/
structure Cabinet where
  drawers : Location → Drawer
  files : List String
  directories : List String

namespace Cabinet

def empty : Cabinet := ⟨fun _ => Drawer.empty, [], []⟩

/-- nothing is kept, neither a database nor a name -/
def emptyDepot : Depot (Location × Connection) Cabinet := ⟨empty, []⟩

/-- the drawer of a location -/
def drawer (s : Cabinet) (location : Location) : Drawer := (s.drawers location).keptAt location

def put (s : Cabinet) (location : Location) (d : Drawer) : Cabinet :=
  { s with drawers := fun other => if other = location then d else s.drawers other }

variable {s t : Cabinet} {location other : Location} {α : Type}

@[simp] theorem drawer_put_self (s : Cabinet) (location : Location) (d : Drawer) :
    (s.put location d).drawer location = d.keptAt location := by
  unfold drawer
  exact congrArg (Drawer.keptAt · location) (if_pos rfl)

theorem drawer_put_other (s : Cabinet) (d : Drawer) (h : other ≠ location) :
    (s.put location d).drawer other = s.drawer other := by
  unfold drawer
  exact congrArg (Drawer.keptAt · other) (if_neg h)

/-- connects to the database of a drawer -/
def connect (location : Location) (s : Cabinet) : Except EngineFault (Location × Connection) × Cabinet :=
  let d := s.drawer location
  (.ok (location, Connection.opened d.freshId (.memory 0) .file),
    s.put location { d with holders := d.holders + 1, next := d.freshId + 1 })

/-- a connection works in its drawer, if somebody is known to be connected -/
def perform (r : Embedded.Request α) (c : Location × Connection) (s : Cabinet) :
    Except EngineFault α × (Location × Connection) × Cabinet :=
  let d := s.drawer c.1
  if d.holders = 0 then (.error (.cannotOpen ""), c, s)
  else
    let x := answer r c.2.fileless d.vault
    (x.1, (c.1, x.2.1), s.put c.1 (d.withVault x.2.2))

def close (c : Location × Connection) (s : Cabinet) : Except EngineFault Unit × Cabinet :=
  let d := s.drawer c.1
  (.ok (), s.put c.1 { d with vault := d.vault.leave c.2.sharing c.2.id, holders := d.holders - 1 })

/-- the names of the files in a directory -/
def namesIn (dir : String) (s : Cabinet) : List String := s.files.filterMap (nameIn dir)

def library : Library (Location × Connection) Cabinet where
  perform := perform
  lastId c _ := c.2.lastId
  openFile path s := connect (.file path) { s with files := s.files.insert path }
  openMemory s := (.error (.cannotOpen ""), s)
  openAddress address := connect (.shared address)
  close := close
  makeDirectories dir s := (.ok (), { s with directories := dir :: s.directories })
  isFile path s := s.files.contains path
  isDirectory dir s := s.directories.contains dir || !(s.namesIn dir).isEmpty
  filesIn dir s := .ok (s.namesIn dir)
  removeFile path s :=
    (.ok (), { s.put (.file path) Drawer.empty with files := s.files.filter fun other => other != path })

/-! ## Databases -/

/-- databases in drawers: none is reached from another one -/
def survey : Survey (Location × Connection) Cabinet Drawer (List StoredTable) where
  kept location s := s.drawer location
  stored d := d.vault.db.content
  holders := Drawer.holders
  calm _ := True
  leads c location := c.1 = location ∧ c.2.sharing = .file
  idle c d := c.2.transaction = none ∧ c.2.Proper d.vault
  within c d := c.2.transaction.isSome = true ∧ c.2.Proper d.vault
  touches location other := location = other
  reaches _ := False
  controls sql := ∃ k, Command.control k ∈ Grammar.readable sql

variable {c c' : Location × Connection} {d : Drawer}

theorem attached_iff : survey.Attached c d ↔ c.2.Proper d.vault := by
  refine ⟨fun h => h.elim And.right And.right, fun h => ?_⟩
  cases ht : c.2.transaction with
  | none => exact .inl ⟨ht, h⟩
  | some t => exact .inr ⟨by rw [ht]; rfl, h⟩

theorem survey_calm {sql : String} (h : (Grammar.readable sql).all Command.isCalm = true) : ¬ survey.controls sql :=
  fun ⟨k, hk⟩ => Grammar.readable_calm h k hk

theorem connect_spares (location : Location) (s : Cabinet) : survey.Spares location s (connect location s).2 :=
  fun _ hother => drawer_put_other s _ (Ne.symm hother)

theorem drawer_connect (location : Location) (s : Cabinet) :
    (connect location s).2.drawer location =
      { s.drawer location with holders := (s.drawer location).holders + 1, next := (s.drawer location).freshId + 1 } := by
  unfold connect
  rw [drawer_put_self]
  exact Drawer.keptAt_of_held (Nat.succ_ne_zero _) location

/-- a request is refused, or it is answered in the drawer of the connection -/
theorem perform_cases (r : Embedded.Request α) (hleads : survey.leads c location) {x : Except EngineFault α}
    (hrun : perform r c s = (x, c', t)) :
    ((∃ e, x = .error e) ∧ c' = c ∧ t = s) ∨
      ∃ a u, answer r c.2.fileless (s.drawer location).vault = (x, a, u) ∧ c' = (location, a) ∧ a.sharing = .file ∧
        t = s.put location ((s.drawer location).withVault u) ∧
        t.drawer location = (s.drawer location).withVault u := by
  obtain ⟨rfl, hsharing⟩ := hleads
  have hsame := ((answer_carries r).kin c.2.fileless (s.drawer c.1).vault).same
  rcases hanswer : answer r c.2.fileless (s.drawer c.1).vault with ⟨y, a, u⟩
  rw [hanswer] at hsame
  unfold perform at hrun
  dsimp only at hrun
  rw [hanswer] at hrun
  split at hrun
  · cases hrun
    exact .inl ⟨⟨_, rfl⟩, rfl, rfl⟩
  · rename_i hheld
    cases hrun
    have hstill : ((s.drawer c.1).withVault u).holders ≠ 0 := hheld
    refine .inr ⟨a, u, rfl, rfl, hsame.sharing.trans hsharing, rfl, ?_⟩
    rw [drawer_put_self]
    exact Drawer.keptAt_of_held hstill c.1

/-- a connection with its drawer -/
theorem sole (hleads : survey.leads c location) (s : Cabinet) (hproper : c.2.Proper (s.drawer location).vault) :
    c.2.fileless.Sole (s.drawer location).vault := fileless_sole hleads.2 hproper

/-- a connection that can give back what it holds can still do so after a request -/
theorem perform_attached {r : Embedded.Request α} (hleads : survey.leads c location)
    (hattached : survey.Attached c (s.drawer location)) {x : Except EngineFault α}
    (hrun : perform r c s = (x, c', t)) : survey.Attached c' (t.drawer location) := by
  rcases perform_cases r hleads hrun with ⟨-, rfl, rfl⟩ | ⟨a, u, hanswer, rfl, -, -, hdrawer⟩
  · exact hattached
  · have hsole := (answer_carries r).sole (sole hleads s (attached_iff.1 hattached))
    rw [hanswer] at hsole
    rw [hdrawer]
    exact attached_iff.2 hsole.proper

/-- a request after which the same is committed -/
theorem perform_leaves {r : Embedded.Request α} (hleads : survey.leads c location)
    (hattached : survey.Attached c (s.drawer location)) {x : Except EngineFault α} (hrun : perform r c s = (x, c', t))
    (hdb : ∀ a u, answer r c.2.fileless (s.drawer location).vault = (x, a, u) → u.db = (s.drawer location).vault.db) :
    survey.Leaves location s c' t := by
  refine ⟨?_, perform_attached hleads hattached hrun⟩
  rcases perform_cases r hleads hrun with ⟨-, -, rfl⟩ | ⟨a, u, hanswer, -, -, -, hdrawer⟩
  · rfl
  · show (t.drawer location).vault.db.content = (s.drawer location).vault.db.content
    rw [hdrawer, ← hdb a u hanswer]
    rfl

/-- **The library of drawers does to databases what the survey says.** -/
theorem survey_followed : survey.Followed library where
  own _ _ h := h
  keys _ _ _ _ _ hne h := by
    cases Location.address_injective (Location.shared.inj h)
    exact hne rfl
  names _ hn hm hapart h := hapart.ne (join_injective hn hm (Location.file.inj h))
  made _ _ _ := rfl
  opened {location s x t} hl hopen := by
    cases location with
    | own => exact absurd rfl hl
    | file path =>
      cases hopen
      refine ⟨connect_spares (.file path) _, fun c hc => ?_⟩
      cases hc
      exact ⟨rfl, rfl⟩
    | shared address =>
      cases hopen
      refine ⟨connect_spares (.shared address) _, fun c hc => ?_⟩
      cases hc
      exact ⟨rfl, rfl⟩
  performed {α} r {c location} s hleads _ := by
    rcases hrun : library.perform r c s with ⟨x, c', t⟩
    rcases perform_cases r hleads hrun with ⟨-, rfl, rfl⟩ | ⟨a, u, -, rfl, hsharing, rfl, -⟩
    · exact ⟨hleads, survey.spares_refl location t⟩
    · exact ⟨⟨rfl, hsharing⟩, fun other hother => drawer_put_other s _ (Ne.symm hother)⟩
  closed {c location} s hleads other hother := drawer_put_other s _ fun h => hother (hleads.1.symm.trans h.symm)
  joined {location s x t} hplace hopen := by
    have hjoined : ∀ s', s'.drawer location = s.drawer location → connect location s' = (x, t) →
        (t.drawer location).holders = (s.drawer location).holders + x.toBool.toNat ∧
          (t.drawer location).vault.db.content = (s.drawer location).vault.db.content ∧ (True → True) ∧
          ∀ c, x = .ok c → c.2.transaction = none ∧ c.2.Proper (t.drawer location).vault := by
      intro s' hsame hconnect
      have hdrawer := drawer_connect location s'
      rw [hconnect, hsame] at hdrawer
      cases hconnect
      rw [hdrawer]
      refine ⟨rfl, rfl, id, fun c hc => ?_⟩
      cases hc
      rw [hsame]
      exact ⟨rfl, proper_outside rfl (s.drawer location).freshId_idle⟩
    cases hplace with
    | file _ => exact hjoined { s with files := s.files.insert _ } rfl hopen
    | shared _ _ => exact hjoined s rfl hopen
  used {α} r {c location} s _ hleads _ := by
    rcases hrun : library.perform r c s with ⟨x, c', t⟩
    rcases perform_cases r hleads hrun with ⟨-, rfl, rfl⟩ | ⟨a, u, -, rfl, -, -, hdrawer⟩
    · rfl
    · show (t.drawer location).holders = (s.drawer location).holders
      rw [hdrawer]
      rfl
  left {c location} s _ hleads := by
    obtain ⟨rfl, -⟩ := hleads
    show ((s.put c.1 _).drawer c.1).holders = _
    rw [drawer_put_self, Drawer.keptAt_holders]
    rfl
  ended {c location s} _ hleads _ hstays := by
    obtain ⟨rfl, -⟩ := hleads
    have hkept : ∀ d : Drawer, d.holders = (s.drawer c.1).holders - 1 → d.keptAt c.1 = d := by
      intro d hd
      rcases hstays with ⟨path, hpath⟩ | htwo
      · rw [hpath]
        rfl
      · have hheld : 2 ≤ (s.drawer c.1).holders := htwo
        exact Drawer.keptAt_of_held (by omega) c.1
    show ((s.put c.1 _).drawer c.1).vault.db.content = _
    rw [drawer_put_self, hkept _ rfl]
    exact congrArg Database.content (Vault.leave_db _ _ _)
  read {c location s x c' t} _ hleads hidle hrun := by
    have hattached := perform_attached hleads (.inl hidle) hrun
    rcases perform_cases .readVersion hleads hrun with ⟨⟨e, rfl⟩, rfl, rfl⟩ | ⟨a, u, hanswer, rfl, -, -, hdrawer⟩
    · exact ⟨rfl, hidle, fun k hk => by cases hk⟩
    · obtain ⟨hdb, hwork, hread⟩ := (sole hleads s hidle.2).readVersion hanswer
      have hnone : c.2.fileless.work? (s.drawer location).vault = none := work?_outside hidle.1 _
      rw [hnone] at hwork hread
      refine ⟨?_, ⟨outside_of_work? hwork, attached_iff.1 hattached⟩, fun k hk _ => hread k hk⟩
      show (t.drawer location).vault.db.content = _
      rw [hdrawer]
      exact congrArg Database.content hdb
  begun {c location s x c' t} _ hleads hidle hrun := by
    have hsole := sole hleads s hidle.2
    have hattached := perform_attached hleads (.inl hidle) hrun
    refine ⟨perform_leaves hleads (.inl hidle) hrun fun a u hanswer => by rw [(hsole.begins hanswer).1], fun hx => ?_⟩
    subst hx
    rcases perform_cases _ hleads hrun with ⟨⟨e, he⟩, -⟩ | ⟨a, u, hanswer, rfl, -⟩
    · cases he
    · have hwork := ((hsole.begins hanswer).2.1 rfl).2
      exact ⟨inside_of_work? (by rw [hwork]; rfl), attached_iff.1 hattached⟩
  inside {α} r {sql c location s} _ hleads hwithin htext _ hcontrols := by
    rcases hrun : library.perform r c s with ⟨x, c', t⟩
    refine perform_leaves hleads (.inr hwithin) hrun fun a u hanswer => ?_
    have hinside := (sole hleads s hwithin.2).statement_inside htext (fun k hk => hcontrols ⟨k, hk⟩) hwithin.1
      (P := fun _ => True) trivial fun d _ => keeps_any d
    rw [hanswer] at hinside
    exact hinside.2.1
  written {c location s n x c' t} _ hleads hwithin hrun :=
    perform_leaves hleads (.inr hwithin) hrun fun a u hanswer =>
      ((sole hleads s hwithin.2).writeVersion_inside (work?_inside hwithin.1 _) hanswer).1
  committed {c location s e c' t} _ hleads hattached hrun :=
    perform_leaves hleads hattached hrun fun a u hanswer =>
      (((sole hleads s (attached_iff.1 hattached)).commits hanswer).2 e rfl).1
  undone {c location s x c' t} _ hleads hattached hrun :=
    perform_leaves hleads hattached hrun fun a u hanswer =>
      ((sole hleads s (attached_iff.1 hattached)).rollsBack hanswer).1

/-! ## Addresses -/

theorem connect_determined (h : s.drawer location = t.drawer location) :
    (connect location s).1 = (connect location t).1 ∧
      (connect location s).2.drawer location = (connect location t).2.drawer location := by
  rw [drawer_connect, drawer_connect, h]
  unfold connect
  rw [h]
  exact ⟨rfl, rfl⟩

theorem perform_determined (r : Embedded.Request α) (h : s.drawer c.1 = t.drawer c.1) :
    (perform r c s).1 = (perform r c t).1 ∧ (perform r c s).2.1 = (perform r c t).2.1 ∧
      (perform r c s).2.2.drawer c.1 = (perform r c t).2.2.drawer c.1 := by
  unfold perform
  rw [h]
  dsimp only
  split
  · exact ⟨rfl, rfl, h⟩
  · refine ⟨rfl, rfl, ?_⟩
    rw [drawer_put_self, drawer_put_self]

/-- a database in memory that nobody is connected to is empty -/
theorem drawer_unheld {number : Nat} {key : String} (h : (s.drawer (room number key)).holders = 0) :
    s.drawer (room number key) = Drawer.empty :=
  if_pos ((Drawer.keptAt_holders _ _).symm.trans h)

/-- **What is answered at an address is determined by its drawer**, which is empty if nobody is connected. -/
theorem survey_determined (number : Nat) : survey.Determined library number [] where
  opened {key s t} _ h := by
    have hroom : ∀ u, library.openAt (room number key) u = connect (room number key) u := fun _ => rfl
    rw [hroom, hroom]
    exact connect_determined h
  performed r _ _ s t _ hleads _ h := by
    obtain ⟨hlocation, -⟩ := hleads
    rw [← hlocation] at h ⊢
    exact perform_determined r h
  lastId _ _ _ := rfl
  closed {key c s t} _ hleads h := by
    obtain ⟨hlocation, -⟩ := hleads
    rw [← hlocation] at h ⊢
    have hdrawer : s.drawer c.1 = t.drawer c.1 := h
    refine ⟨rfl, ?_⟩
    show (close c s).2.drawer c.1 = (close c t).2.drawer c.1
    unfold close
    rw [hdrawer, drawer_put_self, drawer_put_self]
  gone _ hs ht := (drawer_unheld hs).trans (drawer_unheld ht).symm
  fresh {key s} _ hs := by
    refine ⟨trivial, ?_⟩
    show (s.drawer (room number key)).vault.db.content = _
    rw [drawer_unheld hs]
    rfl

/-! ## Directories -/

/-- the files in a directory that belong to no other one -/
def folder (dir : String) : Folder Cabinet where
  shown s n := n ∈ s.namesIn dir ∧ isSidecar n = false
  place name := nameIn dir (join dir name)

theorem folder_place (dir name : String) : (folder dir).place name = nameIn dir (join dir name) := by
  unfold folder
  dsimp only

theorem perform_files (r : Embedded.Request α) (c : Location × Connection) (s : Cabinet) :
    (perform r c s).2.2.files = s.files := by
  unfold perform
  dsimp only
  split
  · rfl
  · rfl

theorem mem_namesIn {dir n : String} : n ∈ s.namesIn dir ↔ ∃ path ∈ s.files, nameIn dir path = some n :=
  List.mem_filterMap

theorem mem_namesIn_plain {dir n : String} (hn : Plain n) : n ∈ s.namesIn dir ↔ join dir n ∈ s.files := by
  rw [mem_namesIn]
  refine ⟨fun ⟨path, hpath, hname⟩ => ?_, fun h => ⟨_, h, nameIn_join dir hn⟩⟩
  rw [join_of_nameIn hname]
  exact hpath

theorem mem_namesIn_insert {dir path n : String} (h : t.files = s.files.insert path) :
    n ∈ t.namesIn dir ↔ nameIn dir path = some n ∨ n ∈ s.namesIn dir := by
  rw [mem_namesIn, mem_namesIn, h]
  simp only [List.mem_insert_iff, or_and_right, exists_or, exists_eq_left]

/-- **The library of drawers does in every directory what the folder says.** -/
theorem folder_followed (dir : String) : (folder dir).Followed survey library dir where
  whole h := h.2
  placed {n} _ hn := (folder_place dir n).trans (nameIn_join dir hn)
  listed s := by
    by_cases hthere : library.isDirectory dir s = true
    · exact .inr ⟨hthere, s.namesIn dir, rfl, fun _ => Iff.rfl⟩
    · refine .inl ⟨Bool.eq_false_iff.2 hthere, fun n hn => hthere ?_⟩
      have hsome : (s.namesIn dir).isEmpty = false := by
        rw [List.isEmpty_eq_false_iff_exists_mem]
        exact ⟨n, hn.1⟩
      show (s.directories.contains dir || !(s.namesIn dir).isEmpty) = true
      rw [hsome, Bool.not_false, Bool.or_true]
  present {n s} _ hn hwhole := by
    show s.files.contains (join dir n) = true ↔ n ∈ s.namesIn dir ∧ isSidecar n = false
    rw [List.contains_iff_mem, mem_namesIn_plain hn, and_iff_left hwhole]
  made _ _ _ := Iff.rfl
  opened {name s x t} hopen := by
    have hfiles : t.files = s.files.insert (join dir name) := by
      cases hopen
      rfl
    have hshown : ∀ n, (folder dir).shown t n ↔
        (nameIn dir (join dir name) = some n ∨ n ∈ s.namesIn dir) ∧ isSidecar n = false := fun n =>
      and_congr_left' (mem_namesIn_insert hfiles)
    rw [folder_place]
    refine ⟨fun n hn => (hshown n).2 ⟨.inr hn.1, hn.2⟩, fun n hn => ?_, fun _ n _ hplace hwhole =>
      (hshown n).2 ⟨.inl hplace, hwhole⟩⟩
    obtain ⟨hnew | hold, hwhole⟩ := (hshown n).1 hn
    · exact .inr hnew
    · exact .inl ⟨hold, hwhole⟩
  performed r c _ s _ _ n := by
    show n ∈ (perform r c s).2.2.files.filterMap (nameIn dir) ∧ _ ↔ _
    rw [perform_files]
    rfl
  closed _ _ _ := Iff.rfl
  removed {n s} _ hn _ := by
    refine ⟨_, rfl, fun m => ?_, fun m hm hne _ => ?_⟩
    · show m ∈ (s.files.filter fun other => other != join dir n).filterMap (nameIn dir) ∧ _ ↔ _
      rw [List.mem_filterMap]
      constructor
      · rintro ⟨⟨path, hpath, hname⟩, hwhole⟩
        rw [List.mem_filter] at hpath
        refine ⟨⟨mem_namesIn.2 ⟨path, hpath.1, hname⟩, hwhole⟩, ?_⟩
        rintro rfl
        rw [join_of_nameIn hname] at hpath
        simp at hpath
      · rintro ⟨⟨hm, hwhole⟩, hne⟩
        obtain ⟨path, hpath, hname⟩ := mem_namesIn.1 hm
        refine ⟨⟨path, List.mem_filter.2 ⟨hpath, bne_iff_ne.2 ?_⟩, hname⟩, hwhole⟩
        rintro rfl
        rw [nameIn_join dir hn] at hname
        exact hne (Option.some.inj hname).symm
    · exact drawer_put_other s _ fun h => hne (join_injective hm hn (Location.file.inj h)).symm

end Cabinet

end FluentSql
