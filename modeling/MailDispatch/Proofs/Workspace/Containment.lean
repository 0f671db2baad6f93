import MailDispatch.Proofs.FileTree.Agreement
import MailDispatch.Proofs.Workspace.Locating

/-!
# Which files a workspace reads

A path is located before anything is read, and it is refused unless its location lies within the
workspace. That location is the one at which the file really stands as long as no circle of links is
met while it is sought. Where one is met, the rest of the path is followed by names alone, so that a
link may be left on the location, and opening it may lead outside: a path escapes. The workspaces in
which some path does are those in which some path meets a circle and some location leads outside.
-/

namespace MailDispatch.Workspace

variable {w : Workspace} {path : String} {loc : Location} {data : List UInt8}

/-- Resolving the path meets a circle of links and is given up there. -/
def MeetsCircle (w : Workspace) (path : String) : Prop :=
  ∃ loc, w.tree.resolve [] (w.joined path) = .looped loc

/-- Opening what is located for a path leads to a regular file at `loc`, with content `data`: that is
where the file really stands. -/
def Opens (w : Workspace) (path : String) (loc : Location) (data : List UInt8) : Prop :=
  ∃ located, w.locate path = .ok located ∧
    w.tree.reach [] (.ofLocation located) = .ok (.there loc (.file data))

/-- Opening what is located for a path leads to a file outside of the workspace. -/
def Escapes (w : Workspace) (path : String) : Prop :=
  ∃ loc data, w.Opens path loc data ∧ ¬loc.isWithin w.root

/-- Some location within the workspace leads to a file outside. -/
def LeadsOut (w : Workspace) : Prop :=
  ∃ inside loc data, inside.IsNameable ∧ inside.isWithin w.root ∧
    w.tree.reach [] (.ofLocation inside) = .ok (.there loc (.file data)) ∧ ¬loc.isWithin w.root

/-- A workspace as it can stand on a disk: the names on the way to it are names of entries, and no
link has a target that no path could hold. -/
structure IsNameable (w : Workspace) : Prop where
  root : w.root.IsNameable
  targets : w.tree.HasPlainTargets

/-! ## Locating -/

/-- The location for a path that meets no circle is real. -/
theorem isReal_of_locate (h : w.locate path = .ok loc) (hc : ¬w.MeetsCircle path) :
    w.tree.IsReal loc := by
  obtain ⟨-, -, hloc, -⟩ := locate_eq_ok_iff.mp h
  cases hr : w.tree.resolve [] (w.joined path) with
  | looped l => exact absurd ⟨l, hr⟩ hc
  | resolved l =>
    rw [hr] at hloc
    obtain rfl : l = loc := hloc
    have hstart : w.tree.IsReal ((w.joined path).start []) := by
      rw [FilePath.start_nil]
      trivial
    exact FileTree.isReal_of_resolveFrom hstart hr

/-! ## Reading -/

/-- What is read is the content of the file that opening leads to. -/
theorem readBytes_eq_ok_iff : w.readBytes path = .ok data ↔ ∃ loc, w.Opens path loc data := by
  rw [readBytes]
  constructor
  · intro h
    cases hl : w.locate path with
    | error e => rw [hl] at h; cases h
    | ok located =>
      rw [hl] at h
      change (w.tree.read [] (.ofLocation located)).mapError Failure.file = .ok data at h
      cases hr : w.tree.read [] (.ofLocation located) with
      | error f => rw [hr] at h; cases h
      | ok content =>
        rw [hr] at h
        cases h
        obtain ⟨loc, hreach⟩ := FileTree.read_eq_ok_iff.mp hr
        exact ⟨loc, located, hl, hreach⟩
  · rintro ⟨loc, located, hl, hreach⟩
    rw [hl]
    show (w.tree.read [] (.ofLocation located)).mapError Failure.file = .ok data
    rw [FileTree.read_eq_ok_iff.mpr ⟨loc, hreach⟩]
    rfl

/-- What is read under an encoding is a file of which all data stand for text. -/
theorem readTextAs_eq_ok {name text : String} (h : w.readTextAs path name = .ok text) :
    ∃ data encoding, w.readBytes path = .ok data ∧
      Text.Encoding.forName name data = .ok encoding ∧ textOf encoding data = .ok text := by
  rw [readTextAs] at h
  cases hb : w.readBytes path with
  | error e => rw [hb] at h; cases h
  | ok data =>
    rw [hb] at h
    change ((Text.Encoding.forName name data).mapError Failure.encoding).bind _ = _ at h
    cases he : Text.Encoding.forName name data with
    | error e => rw [he] at h; cases h
    | ok encoding => rw [he] at h; exact ⟨data, encoding, rfl, he, h⟩

/-- A regular file stands where opening leads to. -/
theorem Opens.find? (h : w.Opens path loc data) : w.tree.find? loc = some (.file data) := by
  obtain ⟨located, -, hreach⟩ := h
  exact FileTree.find?_of_reach hreach

/-- Without a circle, what is located is where the file stands, and so it is within the workspace. -/
theorem Opens.isWithin (h : w.Opens path loc data) (hc : ¬w.MeetsCircle path) :
    w.locate path = .ok loc ∧ loc.isWithin w.root := by
  obtain ⟨located, hlocate, hreach⟩ := h
  obtain ⟨-, -, -, -, hwithin⟩ := locate_eq_ok_iff.mp hlocate
  rw [FileTree.eq_of_reach (isReal_of_locate hlocate hc) hreach]
  exact ⟨hlocate, hwithin⟩

/-! ## Trees that agree within the workspace -/

theorem locate_eq_of_agreesWithin {t : FileTree} (h : w.tree.AgreesWithin w.root t)
    (path : String) : { w with tree := t }.locate path = w.locate path := by
  have hresolve : t.resolve [] (w.joined path) = w.tree.resolve [] (w.joined path) := by
    rw [FileTree.resolve, FileTree.resolve, h.resolveFrom_eq]
  have hjoined : { w with tree := t }.joined path = w.joined path := rfl
  rw [locate_eq, locate_eq, hjoined]
  dsimp only
  rw [hresolve, h.isCircular_eq]

/-- A path that does not escape is read in the same way. -/
theorem readBytes_eq_of_agreesWithin {t : FileTree} (h : w.tree.AgreesWithin w.root t)
    (hpath : ¬w.Escapes path) : { w with tree := t }.readBytes path = w.readBytes path := by
  rw [readBytes, readBytes, locate_eq_of_agreesWithin h]
  cases hl : w.locate path with
  | error e => rfl
  | ok located =>
    have hread : t.read [] (.ofLocation located) = w.tree.read [] (.ofLocation located) := by
      rcases h.reach_cases [] (.ofLocation located) with hsame | ⟨loc, data, -, hout, hr, -⟩
      · rw [FileTree.read, FileTree.read, FileTree.status, FileTree.status, hsame]
      · exact absurd ⟨loc, data, ⟨located, hl, hr⟩, hout⟩ hpath
    show (t.read [] (.ofLocation located)).mapError Failure.file = _
    rw [hread]
    rfl

/-- What is read at a path that leads outside is whatever stands there. -/
theorem readBytes_put (h : w.Opens path loc data) (hout : ¬loc.isWithin w.root)
    (content : List UInt8) :
    { w with tree := w.tree.put loc (.file content) }.readBytes path = .ok content := by
  have hfound := h.find?
  have hagree := FileTree.agreesWithin_put hfound hout content
  obtain ⟨located, hlocate, hreach⟩ := h
  refine readBytes_eq_ok_iff.mpr
    ⟨loc, located, (locate_eq_of_agreesWithin hagree path).trans hlocate, ?_⟩
  have hthere : ∀ content', (w.tree.put loc (.file content)).reach [] (.ofLocation located)
        = .ok (.there loc (.file content')) →
      (w.tree.put loc (.file content)).reach [] (.ofLocation located)
        = .ok (.there loc (.file content)) := by
    intro content' hr
    have hput := FileTree.find?_of_reach hr
    rw [FileTree.find?_put hfound, if_pos rfl] at hput
    cases hput
    exact hr
  rcases hagree.reach_cases [] (.ofLocation located) with hsame | ⟨loc', _, content', -, hr, hr'⟩
  · exact hthere data (hsame.trans hreach)
  · cases hr.symm.trans hreach
    exact hthere content' hr'

/-! ## Escapes -/

/-- What is written in a path of the workspace can be written in any path. -/
theorem mem_names_joined (hroot : w.root.IsNameable) (hpath : '\x00' ∉ path.toList)
    {name : String} (h : name ∈ (w.joined path).names) :
    IsComponent name ∧ '\x00' ∉ name.toList := by
  rcases FilePath.mem_names_join h with hmem | htext
  · have hentry := hroot name (List.mem_reverse.mp hmem)
    exact ⟨hentry.toIsComponent, hentry.noNul⟩
  · obtain ⟨hcomponent, hchars⟩ := FilePath.mem_names_ofText htext
    exact ⟨hcomponent, fun hnul ↦ hpath (hchars _ hnul)⟩

theorem isNameable_of_locate (hw : w.IsNameable) (h : w.locate path = .ok loc) :
    loc.IsNameable := by
  obtain ⟨hpath, -, rfl, -⟩ := locate_eq_ok_iff.mp h
  refine FileTree.isNameable_location hw.targets ?_ fun name hname ↦ ?_
  · rw [FilePath.start_nil]
    exact fun _ hn ↦ nomatch hn
  · obtain ⟨hcomponent, hnul⟩ := mem_names_joined hw.root hpath hname
    exact ⟨hcomponent.noSlash, hnul⟩

/-- Only a path that meets a circle escapes. -/
theorem Escapes.meetsCircle (h : w.Escapes path) : w.MeetsCircle path := by
  obtain ⟨loc, data, hopens, hout⟩ := h
  by_contra hc
  exact hout (hopens.isWithin hc).2

/-- Where a path escapes, the location that it is given leads outside. -/
theorem Escapes.leadsOut (hw : w.IsNameable) (h : w.Escapes path) : w.LeadsOut := by
  obtain ⟨loc, data, ⟨located, hlocate, hreach⟩, hout⟩ := h
  obtain ⟨-, -, -, -, hwithin⟩ := locate_eq_ok_iff.mp hlocate
  exact ⟨located, loc, data, isNameable_of_locate hw hlocate, hwithin, hreach, hout⟩

/-- Behind a path that meets a circle, any location can be named without its links being looked
at. -/
theorem exists_escapes (hw : w.IsNameable) (hpath : '\x00' ∉ path.toList)
    (hc : w.MeetsCircle path) (hleads : w.LeadsOut) : ∃ path', w.Escapes path' := by
  obtain ⟨stuck, hstuck⟩ := hc
  obtain ⟨inside, loc, data, hinside, hwithin, hreach, hout⟩ := hleads
  let names := (w.joined path).names ++ Location.route stuck inside
  have hnames : ∀ name ∈ names, IsComponent name ∧ '\x00' ∉ name.toList := by
    intro name hname
    rcases List.mem_append.mp hname with hleft | hright
    · exact mem_names_joined hw.root hpath hleft
    · exact Location.isComponent_of_mem_route hinside hright
  have hjoined : w.joined (FilePath.text ⟨.root, names⟩) = ⟨.root, names⟩ := by
    rw [joined, FilePath.ofText_text fun name hname ↦ (hnames name hname).1]
    rfl
  have hresolve : w.tree.resolve [] ⟨.root, names⟩ = .looped inside := by
    have hempty : "" ∉ names := fun hmem ↦ (hnames _ hmem).1.ne_empty rfl
    rw [FileTree.resolve, FilePath.start_nil] at hstuck
    rw [FileTree.resolve, FilePath.start_nil, FileTree.resolveFrom_append hempty hstuck,
      Location.steps_route hinside]
  refine ⟨FilePath.text ⟨.root, names⟩, loc, data, ⟨inside, ?_, hreach⟩, hout⟩
  refine locate_eq_ok_iff.mpr ⟨fun hnul ↦ ?_, ?_, ?_, ?_, hwithin⟩
  · rcases FilePath.mem_text hnul with hslash | ⟨name, hname, hc⟩
    · exact absurd hslash (by decide)
    · exact (hnames name hname).2 hc
  · rw [hjoined]
    exact List.any_eq_false.mpr fun name hname ↦ by simpa using (hnames name hname).2
  · rw [hjoined, hresolve]
    rfl
  · rw [FileTree.isCircular, FileTree.status, hreach]
    rfl

/-- **Containment.** Some path escapes from a workspace if and only if some path meets a circle of
links and some location leads outside. -/
theorem exists_escapes_iff (hw : w.IsNameable) : (∃ path, w.Escapes path) ↔
    (∃ path, '\x00' ∉ path.toList ∧ w.MeetsCircle path) ∧ w.LeadsOut := by
  constructor
  · rintro ⟨path, h⟩
    obtain ⟨loc, data, ⟨located, hlocate, -⟩, -⟩ := id h
    exact ⟨⟨path, (locate_eq_ok_iff.mp hlocate).1, h.meetsCircle⟩, h.leadsOut hw⟩
  · rintro ⟨⟨path, hpath, hc⟩, hleads⟩
    exact exists_escapes hw hpath hc hleads

end MailDispatch.Workspace
