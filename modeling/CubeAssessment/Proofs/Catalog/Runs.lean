import CubeAssessment.Proofs.Catalog
import CubeAssessment.Proofs.Text.LowerCase

/-! # Runs over a catalog

A catalog is filled, collected anew and asked, in any order. What it holds after a run are the cubes
put in since it was last collected (`Catalog.run_ofList`), and every answer is the one that this
list of cubes gives, said without the catalog: the last cube of a name, and the set of the
lower-cased names (`Catalog.run_answers`). -/

namespace CubeAssessment

/-- A step over a catalog. -/
inductive CatalogStep where
  /-- Hold a cube. -/
  | insert (cube : Cube)
  /-- Go on with the catalog of a list of cubes. -/
  | collect (cubes : List Cube)
  /-- Look up a name. -/
  | find (name : String)
  /-- List the names and count the cubes. -/
  | list
  deriving DecidableEq, Repr

/-- What a step over a catalog answers. -/
inductive CatalogReply where
  /-- A cube is held, in place of the one of its name, if there was one. -/
  | replaced (cube : Option Cube)
  /-- A list of cubes is collected. -/
  | collected
  /-- The cube of a name. -/
  | found (cube : Option Cube)
  /-- The names, and the number of cubes. -/
  | listed (names : List String) (size : Nat)
  deriving DecidableEq, Repr

/-! ## What the answers should be -/

/-- The cubes put in after a step, given those put in before it, the last one at the end. -/
def CatalogStep.putIn (cubes : List Cube) : CatalogStep → List Cube
  | insert cube => cubes ++ [cube]
  | collect taken => taken
  | find _ => cubes
  | list => cubes

/-- **The last cube of a name, without regard to case**, if a list of cubes has one. -/
def Newest (cubes : List Cube) (name : String) : Option Cube → Prop
  | some cube => ∃ front back, cubes = front ++ cube :: back ∧
      Text.lower cube.name = Text.lower name ∧
      ∀ later ∈ back, Text.lower later.name ≠ Text.lower name
  | none => ∀ cube ∈ cubes, Text.lower cube.name ≠ Text.lower name

/-- **The answer to a step when a list of cubes was put in before it.** -/
inductive CatalogReply.Answers (cubes : List Cube) : CatalogStep → CatalogReply → Prop
  /-- Inserting answers with the cube that is replaced, the last one of the name. -/
  | replaced {cube : Cube} {old : Option Cube} (hold : Newest cubes cube.name old) :
      Answers cubes (.insert cube) (.replaced old)
  /-- Collecting gives no answer. -/
  | collected (taken : List Cube) : Answers cubes (.collect taken) .collected
  /-- A look-up answers with the last cube of the name. -/
  | found {name : String} {cube : Option Cube} (hcube : Newest cubes name cube) :
      Answers cubes (.find name) (.found cube)
  /-- The names are the lower-cased ones of the cubes, strictly ascending, and as many as cubes
  are counted. -/
  | listed {names : List String} {size : Nat} (hascending : names.Pairwise (· < ·))
      (hnames : ∀ key, key ∈ names ↔ ∃ cube ∈ cubes, Text.lower cube.name = key)
      (hsize : size = names.length) : Answers cubes .list (.listed names size)

namespace Catalog

/-! ## Runs -/

/-- Take one step. -/
def step (c : Catalog) : CatalogStep → Catalog × CatalogReply
  | .insert cube => ((c.insert cube).2, .replaced (c.insert cube).1)
  | .collect cubes => (ofList cubes, .collected)
  | .find name => (c, .found (c.find? name))
  | .list => (c, .listed c.names c.size)

/-- Take steps one after the other, collecting the replies. -/
def run (c : Catalog) : List CatalogStep → Catalog × List CatalogReply
  | [] => (c, [])
  | next :: rest =>
      let (following, reply) := c.step next
      let (last, replies) := following.run rest
      (last, reply :: replies)

/-- **A step over the catalog of a list of cubes gives the catalog of the cubes put in.** -/
theorem step_ofList (cubes : List Cube) (next : CatalogStep) :
    ((ofList cubes).step next).1 = ofList (next.putIn cubes) := by
  cases next with
  | insert cube => exact (ofList_concat cubes cube).symm
  | collect taken => rfl
  | find name => rfl
  | list => rfl

/-- **After a run the catalog is that of the cubes put in.** -/
theorem run_ofList (cubes : List Cube) (steps : List CatalogStep) :
    ((ofList cubes).run steps).1 = ofList (steps.foldl CatalogStep.putIn cubes) := by
  induction steps generalizing cubes with
  | nil => rfl
  | cons next rest ih =>
    change (((ofList cubes).step next).1.run rest).1 = _
    rw [step_ofList, ih, List.foldl_cons]

/-- The reply to a step of a run is the reply to it after the steps before. -/
theorem getElem?_replies_run (c : Catalog) (steps : List CatalogStep) (i : Nat) :
    (c.run steps).2[i]? = steps[i]?.map fun next => ((c.run (steps.take i)).1.step next).2 := by
  induction steps generalizing c i with
  | nil => rfl
  | cons next rest ih =>
    cases i with
    | zero => rfl
    | succ i => exact ih (c.step next).1 i

/-! ## Answers -/

/-- **A look-up finds the last cube of the name.** -/
theorem newest_find?_ofList (cubes : List Cube) (name : String) :
    Newest cubes name ((ofList cubes).find? name) := by
  rw [find?_ofList]
  cases hlast : cubes.findRev? fun cube => Text.lower cube.name == Text.lower name with
  | none =>
    intro cube hcube hname
    exact findRev?_eq_none_iff.mp hlast cube hcube (beq_iff_eq.mpr hname)
  | some cube =>
    obtain ⟨hname, front, back, hcubes, hback⟩ := findRev?_eq_some_iff.mp hlast
    refine ⟨front, back, hcubes, beq_iff_eq.mp hname, fun later hlater hsame => ?_⟩
    exact hback later hlater (beq_iff_eq.mpr hsame)

/-- **Over the catalog of a list of cubes every step answers as the list does.** -/
theorem answers_step_ofList (cubes : List Cube) (next : CatalogStep) :
    CatalogReply.Answers cubes next ((ofList cubes).step next).2 := by
  cases next with
  | insert cube => exact .replaced (newest_find?_ofList cubes cube.name)
  | collect taken => exact .collected taken
  | find name => exact .found (newest_find?_ofList cubes name)
  | list =>
    exact .listed (pairwise_names _) (fun key => mem_names_ofList_iff) (size_eq_length_names _)

/-- **Inserting cubes one after the other collects them.** -/
theorem run_map_insert (cubes : List Cube) :
    (empty.run (cubes.map .insert)).1 = ofList cubes := by
  have hputIn : (cubes.map CatalogStep.insert).foldl CatalogStep.putIn [] = cubes := by
    induction cubes using List.reverseRecOn with
    | nil => rfl
    | append_singleton cubes cube ih =>
      rw [List.map_append, List.foldl_append, ih]
      rfl
  have hrun := run_ofList [] (cubes.map .insert)
  rwa [hputIn] at hrun

/-- **A catalog is the finite map of its cubes under their lower-cased names, over every run.** Each
step answers as the list of the cubes put in before it does: a look-up finds the last cube of the
name, inserting answers with the cube that is replaced, and the names listed are the lower-cased
names of the cubes, each once, in ascending order. Under every name listed a cube of that
lower-cased name is found. Collecting a list of cubes is inserting them one after the other. -/
theorem run_answers (steps : List CatalogStep) :
    (∀ (i : Nat) (next : CatalogStep), steps[i]? = some next →
      ∃ reply, (empty.run steps).2[i]? = some reply ∧
        CatalogReply.Answers ((steps.take i).foldl CatalogStep.putIn []) next reply) ∧
    (∀ key ∈ (empty.run steps).1.names, ∃ cube, (empty.run steps).1.find? key = some cube ∧
      Text.lower cube.name = key) ∧
    ∀ cubes, ((empty.run steps).1.step (.collect cubes)).1 =
      (empty.run (cubes.map .insert)).1 := by
  refine ⟨fun i next hnext => ?_, fun key hkey => ?_, fun cubes => (run_map_insert cubes).symm⟩
  · refine ⟨_, by rw [getElem?_replies_run, hnext, Option.map_some], ?_⟩
    have hrun : (empty.run (steps.take i)).1 =
        ofList ((steps.take i).foldl CatalogStep.putIn []) := run_ofList [] (steps.take i)
    rw [hrun]
    exact answers_step_ofList _ next
  · have hrun : (empty.run steps).1 = ofList (steps.foldl CatalogStep.putIn []) :=
      run_ofList [] steps
    rw [hrun] at hkey ⊢
    obtain ⟨cube, hcube, rfl⟩ := mem_names_ofList_iff.mp hkey
    -- the key is lower-cased already, so lower-casing it again still finds a cube of its name
    have hnewest := newest_find?_ofList (steps.foldl CatalogStep.putIn []) (Text.lower cube.name)
    cases hfound : (ofList (steps.foldl CatalogStep.putIn [])).find? (Text.lower cube.name) with
    | none =>
      rw [hfound] at hnewest
      exact absurd (Text.lower_lower cube.name).symm (hnewest cube hcube)
    | some other =>
      rw [hfound] at hnewest
      obtain ⟨front, back, -, hname, -⟩ := hnewest
      exact ⟨other, rfl, hname.trans (Text.lower_lower cube.name)⟩

end Catalog

end CubeAssessment
