import Mathlib.Tactic.SplitIfs
import RuleLedger.Ledger.Artifacts
import RuleLedger.Proofs.Except

/-! Where the files of a tree are. Main statement: what is written to a path is read from it, and
files at other places are read as before. -/
namespace RuleLedger

variable {t u : FileTree} {path : Text} {p q : FilePath}

namespace FileTree

/-- The place of the file that a path leads to, if one can be written there. -/
def place (t : FileTree) (path : Text) : Except FileFault FilePath := do
  let target ← t.follow path
  match target.name with
  | none => .error .isFolder
  | some name =>
    if endsInSlash path then .error .isFolder
    else
      let p ← step target.here name
      if t.isFolder p then .error .isFolder else return p

/-- The tree with a file at a place. -/
def store (t : FileTree) (p : FilePath) (text : String) : FileTree :=
  { t with files := put p text t.files }

theorem place_eq_ok : t.place path = .ok p ↔
    ∃ here name, t.follow path = .ok ⟨here, some name⟩ ∧ endsInSlash path = false ∧
      step here name = .ok p ∧ t.isFolder p = false := by
  rw [place, bind_eq_ok]
  constructor
  · rintro ⟨⟨here, name⟩, hfollow, h⟩
    cases name with
    | none => cases h
    | some name =>
      dsimp only at h
      split_ifs at h with hslash
      obtain ⟨q, hstep, h⟩ := bind_eq_ok.1 h
      split_ifs at h with hfolder
      obtain rfl := Except.ok.inj h
      exact ⟨here, name, hfollow, eq_false_of_ne_true hslash, hstep,
        eq_false_of_ne_true hfolder⟩
  · rintro ⟨here, name, hfollow, hslash, hstep, hfolder⟩
    refine ⟨_, hfollow, ?_⟩
    dsimp only
    rw [hslash, hstep]
    simp only [bind, Except.bind, hfolder, Bool.false_eq_true, if_false]
    rfl

theorem write_eq_ok {text : String} :
    t.write path text = .ok u ↔ ∃ p, t.place path = .ok p ∧ u = t.store p text := by
  simp only [place_eq_ok]
  rw [write, bind_eq_ok]
  constructor
  · rintro ⟨⟨here, name⟩, hfollow, h⟩
    cases name with
    | none => cases h
    | some name =>
      dsimp only at h
      split_ifs at h with hslash
      obtain ⟨p, hstep, h⟩ := bind_eq_ok.1 h
      split_ifs at h with hfolder
      exact ⟨p, ⟨here, name, hfollow, eq_false_of_ne_true hslash, hstep,
        eq_false_of_ne_true hfolder⟩, (Except.ok.inj h).symm⟩
  · rintro ⟨p, ⟨here, name, hfollow, hslash, hstep, hfolder⟩, rfl⟩
    refine ⟨_, hfollow, ?_⟩
    dsimp only
    rw [hslash, hstep]
    simp only [bind, Except.bind, hfolder, Bool.false_eq_true, if_false]
    rfl

/-- What a place holds is read from every path that leads there. -/
theorem read_of_place {text : String} (h : t.place path = .ok p) (hf : t.file? p = some text) :
    t.read path = .ok text := by
  obtain ⟨here, name, hfollow, hslash, hstep, hfolder⟩ := place_eq_ok.1 h
  simp only [read, hfollow, bind, Except.bind, hslash, hstep, hfolder, hf, Bool.false_eq_true,
    if_false]
  rfl

theorem enter_eq_ok {here : FilePath} {name : Text} :
    t.enter here name = .ok q ↔ step here name = .ok q ∧ t.isFolder q = true := by
  rw [enter, bind_eq_ok]
  constructor
  · rintro ⟨r, hstep, h⟩
    split_ifs at h with hfolder
    obtain rfl := Except.ok.inj h
    exact ⟨hstep, hfolder⟩
  · rintro ⟨hstep, hfolder⟩
    exact ⟨q, hstep, if_pos hfolder⟩

/-! A way leads through folders, whatever files there are. -/

theorem enter_congr (h : u.folders = t.folders) {here : FilePath} {name : Text}
    (hq : t.enter here name = .ok q) : u.enter here name = .ok q := by
  obtain ⟨hstep, hfolder⟩ := enter_eq_ok.1 hq
  rw [isFolder, ← h] at hfolder
  exact enter_eq_ok.2 ⟨hstep, hfolder⟩

theorem enterAll_congr (h : u.folders = t.folders) {names : List Text} {here : FilePath}
    (hq : names.foldlM t.enter here = .ok q) : names.foldlM u.enter here = .ok q := by
  induction names generalizing here with
  | nil => exact hq
  | cons name names ih =>
    rw [List.foldlM_cons, bind_eq_ok] at hq ⊢
    obtain ⟨r, hr, hq⟩ := hq
    exact ⟨r, enter_congr h hr, ih hq⟩

theorem follow_congr (h : u.folders = t.folders) {target : Target}
    (ht : t.follow path = .ok target) : u.follow path = .ok target := by
  simp only [follow] at ht ⊢
  split_ifs at ht ⊢
  split at ht
  · exact ht
  · obtain ⟨here, hhere, ht⟩ := bind_eq_ok.1 ht
    rw [enterAll_congr h hhere]
    split_ifs at ht ⊢ with hdots
    · obtain ⟨last, hlast, ht⟩ := bind_eq_ok.1 ht
      exact bind_eq_ok.2 ⟨here, rfl, bind_eq_ok.2 ⟨last, enter_congr h hlast, ht⟩⟩
    · exact ht

/-- Where a file goes hangs on the folders alone. -/
theorem place_congr (h : u.folders = t.folders) (hp : t.place path = .ok p) :
    u.place path = .ok p := by
  obtain ⟨here, name, hfollow, hslash, hstep, hfolder⟩ := place_eq_ok.1 hp
  rw [isFolder, ← h] at hfolder
  exact place_eq_ok.2 ⟨here, name, follow_congr h hfollow, hslash, hstep, hfolder⟩

theorem file?_store (t : FileTree) (p q : FilePath) (text : String) :
    (t.store p text).file? q = if q = p then some text else t.file? q :=
  lookup_put p q text t.files

end FileTree

/-! ### Carrying out work -/

theorem Script.runOn_bind {α β : Type} (s : Script α) (f : α → Script β) (t : FileTree) :
    (s.bind f).runOn t = (f (s.runOn t).1).runOn (s.runOn t).2 := by
  induction s generalizing t with
  | done a => rfl
  | read path next ih => exact ih _ t
  | makeFolder path next ih => exact ih _ _
  | isFolder path next ih => exact ih _ t
  | write path text next ih => exact ih _ _
  | note line next ih => exact ih t

namespace Work

variable {α β : Type} {w : Work α} {f : α → Work β} {a : α} {b : β} {text : String}

theorem runOn_bind (w : Work α) (f : α → Work β) (t : FileTree) : (w >>= f).runOn t =
    (ExceptT.bindCont f (w.runOn t).1).runOn (w.runOn t).2 :=
  Script.runOn_bind (ExceptT.run w) (ExceptT.bindCont f) t

/-- Work goes on where the work before it went well. -/
theorem runOn_bind_eq_ok : (w >>= f).runOn t = (.ok b, u) ↔
    ∃ a s, w.runOn t = (.ok a, s) ∧ (f a).runOn s = (.ok b, u) := by
  rw [runOn_bind]
  obtain ⟨r, s⟩ := w.runOn t
  cases r with
  | error e =>
    constructor
    · exact fun h => nomatch (Prod.mk.inj h).1
    · rintro ⟨a, s', h, -⟩
      cases (Prod.mk.inj h).1
  | ok a =>
    constructor
    · exact fun h => ⟨a, s, rfl, h⟩
    · rintro ⟨a', s', h, hf⟩
      obtain ⟨ha, rfl⟩ := Prod.mk.inj h
      obtain rfl := Except.ok.inj ha
      exact hf

theorem runOn_ofExcept_eq_ok {r : Except Fault α} :
    (ofExcept r).runOn t = (.ok a, u) ↔ r = .ok a ∧ t = u := Prod.mk.injEq .. ▸ Iff.rfl

/-- That the system takes a path, and a file can be written where it leads. -/
structure Reaches (t : FileTree) (path : Text) (p : FilePath) : Prop where
  checked : checkPath path = pure ()
  place : t.place path = .ok p

theorem Reaches.congr (h : Reaches t path p) (hfolders : u.folders = t.folders) :
    Reaches u path p :=
  ⟨h.checked, FileTree.place_congr hfolders h.place⟩

theorem runOn_checkPath_eq_ok :
    (checkPath path).runOn t = (.ok (), u) ↔ checkPath path = pure () ∧ t = u := by
  constructor
  · intro h
    rw [checkPath] at h ⊢
    split at h
    · cases (Prod.mk.inj h).1
    · split_ifs at h ⊢
      · cases (Prod.mk.inj h).1
      · exact ⟨rfl, (Prod.mk.inj h).2⟩
  · rintro ⟨h, rfl⟩
    rw [h]
    rfl

/-- A file is written exactly where its path leads. -/
theorem runOn_write_eq_ok : (write path text).runOn t = (.ok (), u) ↔
    ∃ p, Reaches t path p ∧ u = t.store p text := by
  rw [write, runOn_bind_eq_ok]
  constructor
  · rintro ⟨⟨⟩, s, hcheck, h⟩
    obtain ⟨hchecked, rfl⟩ := runOn_checkPath_eq_ok.1 hcheck
    simp only [runOn, ExceptT.mk, Script.runOn] at h
    cases hwrite : t.write path text with
    | error f =>
      rw [hwrite] at h
      cases (Prod.mk.inj h).1
    | ok v =>
      rw [hwrite] at h
      obtain rfl := (Prod.mk.inj h).2
      obtain ⟨p, hp, rfl⟩ := FileTree.write_eq_ok.1 hwrite
      exact ⟨p, ⟨hchecked, hp⟩, rfl⟩
  · rintro ⟨p, hp, rfl⟩
    have hwrite : t.write path text = .ok (t.store p text) :=
      FileTree.write_eq_ok.2 ⟨p, hp.place, rfl⟩
    refine ⟨(), t, runOn_checkPath_eq_ok.2 ⟨hp.checked, rfl⟩, ?_⟩
    simp only [runOn, ExceptT.mk, Script.runOn, hwrite]
    rfl

theorem Reaches.runOn_read (h : Reaches t path p) (hf : t.file? p = some text) :
    (read path).runOn t = (.ok text, t) := by
  have hread := FileTree.read_of_place h.place hf
  refine runOn_bind_eq_ok.2 ⟨(), t, runOn_checkPath_eq_ok.2 ⟨h.checked, rfl⟩, ?_⟩
  simp only [runOn, ExceptT.mk, Script.runOn, hread]
  rfl

end Work
end RuleLedger
