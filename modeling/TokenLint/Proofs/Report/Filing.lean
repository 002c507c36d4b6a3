import Mathlib.Data.List.Nodup
import TokenLint.Proofs.Ordered
import TokenLint.Report
import TokenLint.Rule.Basic

/-!
# Sinks as Live References

A sink does not look its file up when something is reported through it. It
keeps hold of the box that the file's findings go to, for as long as it likes,
while the report it came from goes on taking files and findings. That the sink
still reports about its file then rests on the boxes: no file's box is ever
exchanged for another one, and no two files share one.

Here calls on a report are run twice. In a `Session` a sink is no more than
the name of its file, as it is everywhere else in this library. A `Filing` has
the boxes, each found by its number, and its sinks keep numbers. `Sound` is
what the numbers keep to, and by `Filing.session_step` nobody can tell the two
apart, in what is filed or in what is refused.

## Main definitions

* `Report.Call`: A call on a report, or on a sink that it has given out.
* `Report.Session`: A report and the sinks that it has given out.
* `Report.Filing`: The same with numbered boxes in place of names.
* `Report.Filing.session`: What there is to see of the boxes.
* `Report.Filing.Sound`: What the numbers of boxes keep to.

## Theorems

* `Report.Filing.fillWhile_eq`: Filing one at a time, up to one for another
  file.
* `Report.Filing.session_fill`: What is filed is added to its file.
* `Report.Filing.Sound.step`: Every call keeps to the numbers.
* `Report.Filing.session_step`: Both answer every call alike.
* `Report.Filing.session_run`: So the two never part.
-/

namespace TokenLint

/-- The finding that comes of a report through a sink. -/
def Sink.finding (s : Sink) (f : Finding) : Diagnostic :=
  s.diagnostic f.severity f.line f.column f.message

namespace Report

/-- A call on a report, or on a sink that it has given out. -/
inductive Call where
  /-- A file is registered. -/
  | addFile (path : Path)
  /-- A finding is added. -/
  | add (d : Diagnostic)
  /-- Findings about one file are added. -/
  | extend (path : Path) (ds : List Diagnostic)
  /-- A sink for a file is asked for, in the name of a rule if there is one. -/
  | sink (path : Path) (rule : Option String)
  /-- Something is reported through the sink that was given out as the `k`-th, counted
      from zero. -/
  | report (k : Nat) (finding : Finding)
  /-- Something is asked about a file. -/
  | ask (path : Path)
deriving DecidableEq, Repr

/-- A report and the sinks that it has given out, in order. -/
structure Session where
  /-- The report. -/
  report : Report
  /-- The sinks. -/
  sinks : List Sink
deriving DecidableEq, Repr

namespace Session

/-- A call, and the complaint if it is refused. -/
def step (s : Session) : Call → Session × Option UnknownFile
  | .addFile path => (⟨s.report.addFile path, s.sinks⟩, none)
  | .add d =>
      match s.report.add d with
      | .ok r => (⟨r, s.sinks⟩, none)
      | .error e => (s, some e)
  | .extend path ds => (⟨(s.report.extend path ds).1, s.sinks⟩, (s.report.extend path ds).2)
  | .sink path rule =>
      match s.report.sink path rule with
      | .ok sink => (⟨s.report, s.sinks ++ [sink]⟩, none)
      | .error e => (s, some e)
  | .report k f =>
      match s.sinks[k]? with
      | some sink => (⟨s.report.append sink.path [sink.finding f], s.sinks⟩, none)
      | none => (s, none)
  | .ask path =>
      match s.report.bucket path with
      | .ok _ => (s, none)
      | .error e => (s, some e)

/-- The calls of a list in order, from an empty report on. A refused call does not end
    the run. -/
def run (calls : List Call) : Session :=
  calls.foldl (fun s call => (s.step call).1) ⟨empty, []⟩

end Session

/-- A report whose sinks hold on to the boxes that findings are put in. -/
structure Filing where
  /-- The number of each file's box. -/
  register : List (Path × Nat)
  /-- The boxes. -/
  boxes : List (List Diagnostic)
  /-- The sinks that were given out, each with the number of its box. -/
  sinks : List (Sink × Nat)

namespace Filing

/-- Findings are put into a box. -/
def fill (f : Filing) (n : Nat) (ds : List Diagnostic) : Filing :=
  { f with boxes := f.boxes.modify n (· ++ ds) }

/-- Findings are put into a file's box one at a time, up to the first that is about
    another file. -/
def fillWhile (f : Filing) (n : Nat) (path : Path) :
    List Diagnostic → Filing × Option UnknownFile
  | [] => (f, none)
  | d :: ds => if d.path ≠ path then (f, some ⟨d.path⟩) else (f.fill n [d]).fillWhile n path ds

/-- What is done with the box of a file, which is a complaint if there is none. -/
def withBox (f : Filing) (path : Path) (act : Nat → Filing × Option UnknownFile) :
    Filing × Option UnknownFile :=
  match Ordered.get? path f.register with
  | some n => act n
  | none => (f, some ⟨path⟩)

/-- A call, and the complaint if it is refused. -/
def step (f : Filing) : Call → Filing × Option UnknownFile
  | .addFile path =>
      match Ordered.get? path f.register with
      | some _ => (f, none)
      | none => (⟨f.register ++ [(path, f.boxes.length)], f.boxes ++ [[]], f.sinks⟩, none)
  | .add d => f.withBox d.path fun n => (f.fill n [d], none)
  | .extend path ds => f.withBox path fun n => f.fillWhile n path ds
  | .sink path rule =>
      f.withBox path fun n => ({ f with sinks := f.sinks ++ [(⟨path, rule⟩, n)] }, none)
  | .report k finding =>
      match f.sinks[k]? with
      | some (sink, n) => (f.fill n [sink.finding finding], none)
      | none => (f, none)
  | .ask path => f.withBox path fun _ => (f, none)

/-- The calls of a list in order, with nothing filed at first. -/
def run (calls : List Call) : Filing :=
  calls.foldl (fun f call => (f.step call).1) ⟨[], [], []⟩

/-- What is in a box. -/
def content (f : Filing) (n : Nat) : List Diagnostic :=
  f.boxes[n]?.getD []

/-- What there is to see of the boxes: the findings by file, and the sinks by name. -/
def session (f : Filing) : Session :=
  ⟨⟨f.register.map fun entry => (entry.1, f.content entry.2)⟩, f.sinks.map (·.1)⟩

theorem fill_nil (f : Filing) (n : Nat) : f.fill n [] = f := by
  have hid : (fun box : List Diagnostic => box ++ []) = id := funext List.append_nil
  rw [fill, hid, List.modify_id]

theorem fill_fill (f : Filing) (n : Nat) (ds es : List Diagnostic) :
    (f.fill n ds).fill n es = f.fill n (ds ++ es) := by
  simp only [fill]
  rw [List.modify_modify_eq]
  congr 2
  funext box
  exact List.append_assoc _ _ _

/-- Filing one at a time files everything up to the first finding about another file. -/
theorem fillWhile_eq (f : Filing) (n : Nat) (path : Path) (ds : List Diagnostic) :
    f.fillWhile n path ds =
      (f.fill n (ds.takeWhile (·.path = path)),
        (ds.find? (·.path ≠ path)).map fun d => ⟨d.path⟩) := by
  induction ds generalizing f with
  | nil =>
      rw [fillWhile, List.takeWhile_nil, fill_nil]
      rfl
  | cons d ds ih =>
      rw [fillWhile]
      by_cases hd : d.path = path
      · rw [if_neg (not_not_intro hd), ih, fill_fill,
          List.takeWhile_cons_of_pos (by simpa using hd),
          List.find?_cons_of_neg (by simpa using hd)]
        rfl
      · rw [if_pos hd, List.takeWhile_cons_of_neg (by simpa using hd),
          List.find?_cons_of_pos (by simpa using hd), fill_nil]
        rfl

/-- What the numbers of boxes keep to: each file has one box, each box one file, and
    a sink has the box of the file it is for. -/
structure Sound (f : Filing) : Prop where
  keys : (f.register.map (·.1)).Nodup
  numbers : f.register.map (·.2) = List.range f.boxes.length
  sinks : ∀ entry ∈ f.sinks, (entry.1.path, entry.2) ∈ f.register

namespace Sound

variable {f : Filing} {path : Path} {n : Nat}

/-- The boxes that files have are there. -/
theorem lt_length (h : f.Sound) (hmem : (path, n) ∈ f.register) : n < f.boxes.length := by
  have hn : n ∈ f.register.map (·.2) := List.mem_map_of_mem hmem
  rwa [h.numbers, List.mem_range] at hn

/-- Two files are the same if and only if their boxes are. -/
theorem path_eq_iff (h : f.Sound) {entry : Path × Nat} (hentry : entry ∈ f.register)
    (hmem : (path, n) ∈ f.register) : entry.1 = path ↔ n = entry.2 := by
  have hnumbers : (f.register.map (·.2)).Nodup := h.numbers ▸ List.nodup_range
  constructor
  · intro hpath
    rw [List.inj_on_of_nodup_map h.keys hentry hmem hpath]
  · intro hn
    rw [List.inj_on_of_nodup_map hnumbers hentry hmem hn.symm]

/-- Filing leaves the numbers as they are. -/
theorem fill (h : f.Sound) (n : Nat) (ds : List Diagnostic) : (f.fill n ds).Sound where
  keys := h.keys
  numbers := by rw [Filing.fill, List.length_modify]; exact h.numbers
  sinks := h.sinks

/-- A sink gets the box of its file. -/
theorem hand (h : f.Sound) (hmem : (path, n) ∈ f.register) (rule : Option String) :
    Sound { f with sinks := f.sinks ++ [(⟨path, rule⟩, n)] } where
  keys := h.keys
  numbers := h.numbers
  sinks := by
    intro entry hentry
    rcases List.mem_append.mp hentry with hold | hnew
    · exact h.sinks entry hold
    · rw [List.mem_singleton.mp hnew]
      exact hmem

/-- A new file gets a new box. -/
theorem register (h : f.Sound) (hnew : path ∉ f.register.map (·.1)) :
    Sound ⟨f.register ++ [(path, f.boxes.length)], f.boxes ++ [[]], f.sinks⟩ where
  keys := by
    rw [List.map_append, List.nodup_append]
    refine ⟨h.keys, List.nodup_singleton _, ?_⟩
    rintro p hp q hq rfl
    rw [List.map_cons, List.map_nil, List.mem_singleton] at hq
    rw [hq] at hp
    exact hnew hp
  numbers := by
    rw [List.map_append, h.numbers, List.length_append, List.length_singleton, List.range_succ]
    rfl
  sinks := fun entry hentry => List.mem_append_left _ (h.sinks entry hentry)

/-- Every call keeps to the numbers. -/
theorem step (h : f.Sound) (call : Call) : (f.step call).1.Sound := by
  have hwith : ∀ path (act : Nat → Filing × Option UnknownFile),
      (∀ n, (path, n) ∈ f.register → (act n).1.Sound) → (f.withBox path act).1.Sound := by
    intro path act hact
    unfold withBox
    split
    · next n hn => exact hact n (Ordered.mem_of_get?_eq_some hn)
    · exact h
  cases call with
  | addFile path =>
      simp only [Filing.step]
      split
      · exact h
      · next hnone => exact h.register ((Ordered.get?_eq_none_iff _ _).mp hnone)
  | add d => exact hwith _ _ fun n _ => h.fill n [d]
  | extend path ds =>
      refine hwith _ _ fun n _ => ?_
      rw [fillWhile_eq]
      exact h.fill n _
  | sink path rule => exact hwith _ _ fun n hn => h.hand hn rule
  | report k finding =>
      simp only [Filing.step]
      split
      · exact h.fill _ _
      · exact h
  | ask path => exact hwith _ _ fun _ _ => h

end Sound

theorem sound_nothing : Sound ⟨[], [], []⟩ :=
  ⟨List.nodup_nil, rfl, fun _ h => absurd h List.not_mem_nil⟩

theorem sound_run (calls : List Call) : (run calls).Sound := by
  have hall : ∀ f : Filing, f.Sound →
      (calls.foldl (fun f call => (f.step call).1) f).Sound := by
    induction calls with
    | nil => exact fun f h => h
    | cons call calls ih => exact fun f h => ih _ (h.step call)
  exact hall _ sound_nothing

section Session

variable {f : Filing} {path : Path} {n : Nat}

/-- Either a file has a box and is known, or there is a complaint about both. -/
theorem withBox_cases (f : Filing) (path : Path) (act : Nat → Filing × Option UnknownFile) :
    (∃ n, (path, n) ∈ f.register ∧ f.withBox path act = act n ∧
      f.session.report.bucket path = .ok (f.content n)) ∨
    f.withBox path act = (f, some ⟨path⟩) ∧ f.session.report.bucket path = .error ⟨path⟩ := by
  rw [withBox, bucket, session, Ordered.get?_map_snd]
  cases hn : Ordered.get? path f.register with
  | some n => exact .inl ⟨n, Ordered.mem_of_get?_eq_some hn, rfl, rfl⟩
  | none => exact .inr ⟨rfl, rfl⟩

/-- What is put into a file's box is added to the file, and to no other file. -/
theorem session_fill (h : f.Sound) (hmem : (path, n) ∈ f.register) (ds : List Diagnostic) :
    (f.fill n ds).session = ⟨f.session.report.append path ds, f.session.sinks⟩ := by
  have hlt := h.lt_length hmem
  simp only [session, append, fill, Ordered.modify, List.map_map]
  congr 2
  refine List.map_congr_left fun entry hentry => ?_
  simp only [Function.comp_apply, content, List.getElem?_modify, h.path_eq_iff hentry hmem]
  split
  · next hn =>
      rw [← hn, List.getElem?_eq_getElem hlt]
      rfl
  · cases f.boxes[entry.2]? <;> rfl

/-- A new box is a new file without findings. -/
theorem session_register (h : f.Sound) (hnew : Ordered.get? path f.register = none) :
    session ⟨f.register ++ [(path, f.boxes.length)], f.boxes ++ [[]], f.sinks⟩ =
      ⟨f.session.report.addFile path, f.session.sinks⟩ := by
  have hunknown : Ordered.get? path f.session.report.entries = none := by
    rw [session, Ordered.get?_map_snd, hnew, Option.map_none]
  rw [addFile, hunknown, if_neg (by decide),
    Ordered.put_of_not_mem _ _ _ ((Ordered.get?_eq_none_iff _ _).mp hunknown)]
  simp only [session, List.map_append, List.map_cons, List.map_nil, content]
  congr 3
  · refine List.map_congr_left fun entry hentry => ?_
    rw [List.getElem?_append_left (h.lt_length hentry)]
  · rw [List.getElem?_append_right (Nat.le_refl _), Nat.sub_self]
    rfl

/-- With boxes and with names, every call does the same and is refused alike. -/
theorem session_step (h : f.Sound) (call : Call) :
    ((f.step call).1.session, (f.step call).2) = f.session.step call := by
  cases call with
  | addFile path =>
      rw [step, Session.step]
      cases hn : Ordered.get? path f.register with
      | some n =>
          have hknown : (Ordered.get? path f.session.report.entries).isSome = true := by
            rw [session, Ordered.get?_map_snd, hn]
            rfl
          rw [addFile, if_pos hknown]
      | none => rw [← session_register h hn]
  | add d =>
      rw [step, Session.step, Report.add]
      rcases f.withBox_cases d.path fun n => (f.fill n [d], none) with
        ⟨n, hmem, hbox, hbucket⟩ | ⟨hbox, hbucket⟩
      · rw [hbox, hbucket, session_fill h hmem]
        rfl
      · rw [hbox, hbucket]
        rfl
  | extend path ds =>
      rw [step, Session.step, Report.extend]
      rcases f.withBox_cases path fun n => f.fillWhile n path ds with
        ⟨n, hmem, hbox, hbucket⟩ | ⟨hbox, hbucket⟩
      · rw [hbox, hbucket, fillWhile_eq, session_fill h hmem]
      · rw [hbox, hbucket]
  | sink path rule =>
      rw [step, Session.step, Report.sink]
      rcases f.withBox_cases path fun n =>
          ({ f with sinks := f.sinks ++ [(⟨path, rule⟩, n)] }, none) with
        ⟨n, hmem, hbox, hbucket⟩ | ⟨hbox, hbucket⟩
      · rw [hbox, hbucket]
        simp only [session, List.map_append]
        rfl
      · rw [hbox, hbucket]
        rfl
  | report k finding =>
      have hsinks : f.session.sinks[k]? = f.sinks[k]?.map (·.1) := List.getElem?_map ..
      rw [step, Session.step, hsinks]
      cases hk : f.sinks[k]? with
      | some entry =>
          -- The box is still the one of the file that the sink was given out for.
          have hmem := h.sinks entry (List.mem_of_getElem? hk)
          exact congrArg (·, none) (session_fill h hmem [entry.1.finding finding])
      | none => rfl
  | ask path =>
      rw [step, Session.step]
      rcases f.withBox_cases path fun _ => (f, none) with
        ⟨n, hmem, hbox, hbucket⟩ | ⟨hbox, hbucket⟩
      · rw [hbox, hbucket]
      · rw [hbox, hbucket]

/-- So the two never part. -/
theorem session_run (calls : List Call) : (run calls).session = Session.run calls := by
  have hall : ∀ f : Filing, f.Sound →
      (calls.foldl (fun f call => (f.step call).1) f).session =
        calls.foldl (fun s call => (s.step call).1) f.session := by
    induction calls with
    | nil => exact fun f _ => rfl
    | cons call calls ih =>
        intro f h
        rw [List.foldl_cons, List.foldl_cons, ih _ (h.step call), ← session_step h call]
  exact hall _ sound_nothing

end Session

end Filing

end Report

end TokenLint
