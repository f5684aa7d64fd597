import DepLock.Error
/-!
# Looking through an error's chain

An error is a chain of layers, each below the one above it: the cause of a coded layer,
the error a message is written around, the failure a retry mark is put on. `Error.layers` lists them outermost first, and
`Error.codes` lists the codes that the coded ones carry, in the same order.

The questions that `Error` asks about codes read that list (`code_lookups_read_chain`):

* `Error.has c` holds exactly when some layer carries `c` (`has_iff_mem_codes`): the walk
  from coded layer to coded layer passes over any number of uncoded layers in between and
  meets every coded layer;
* `Error.code?` is the first of the codes (`code?_eq_head?_codes`), so `Error.codeName` is
  its name, or the empty text when no layer is coded, and `Error.isCode c` implies
  `Error.has c`.

The walk ends on every error: a chain is a finite term, and `has` recurses on it
structurally.
-/

set_option autoImplicit false

namespace DepLock.Error

/-- The layers of an error, outermost first. -/
def layers : Error → List Error
  | e@(.coded _ _ none) => [e]
  | e@(.coded _ _ (some cause)) => e :: cause.layers
  | e@(.around _ cause _) => e :: cause.layers
  | e@(.transient cause) => e :: cause.layers
  | e => [e]

/-- The code a layer carries itself. -/
def ownCode? : Error → Option Code
  | .coded c _ _ => some c
  | _ => none

/-- The codes of the coded layers, outermost first. -/
def codes (e : Error) : List Code := e.layers.filterMap ownCode?

/-- A coded layer puts its code before the codes of its cause. -/
@[simp] theorem codes_coded (c : Code) (m : String) (cause : Option Error) :
    (coded c m cause).codes = c :: (cause.map codes).getD [] := by
  cases cause <;> rfl

/-- Text around a cause adds no code. -/
@[simp] theorem codes_around (before after : String) (cause : Error) :
    (around before cause after).codes = cause.codes := rfl

/-- Marking a failure as transient adds no code. -/
@[simp] theorem codes_transient (cause : Error) : (transient cause).codes = cause.codes := rfl

/-- A plain message has no code. -/
@[simp] theorem codes_plain (t : String) : (plain t).codes = [] := rfl

/-- A rate-limit failure has no code of its own. -/
@[simp] theorem codes_rateLimit (n : Int) : (rateLimit n).codes = [] := rfl

/-- The not-found failure has no code of its own. -/
@[simp] theorem codes_missing : missing.codes = [] := rfl

/-- The network failure has no code of its own. -/
@[simp] theorem codes_unreachable : unreachable.codes = [] := rfl

/-- A code is in an error's chain exactly when one of its layers carries it. -/
theorem mem_codes_iff {e : Error} {c : Code} : c ∈ e.codes ↔ ∃ l ∈ e.layers, l.ownCode? = some c :=
  List.mem_filterMap

/-- `has` meets every coded layer: it holds exactly of the codes of the chain. -/
theorem has_iff_mem_codes : (e : Error) → (c : Code) → (e.has c = true ↔ c ∈ e.codes)
  | .coded c' _ none, c => by
    simp only [has, Bool.or_false, beq_iff_eq, codes_coded, Option.map_none, Option.getD_none,
      List.mem_singleton]
    exact eq_comm
  | .coded c' _ (some cause), c => by
    simp only [has, Bool.or_eq_true, beq_iff_eq, codes_coded, Option.map_some, Option.getD_some,
      List.mem_cons]
    rw [has_iff_mem_codes cause c]
    exact or_congr_left eq_comm
  | .around _ cause _, c => by simpa [has] using has_iff_mem_codes cause c
  | .transient cause, c => by simpa [has] using has_iff_mem_codes cause c
  | .plain _, _ | .rateLimit _, _ | .missing, _ | .unreachable, _ => by simp [has]

/-- The first coded layer is the first of the codes. -/
theorem code?_eq_head?_codes : (e : Error) → e.code? = e.codes.head?
  | .coded _ _ _ => by simp [code?, firstCoded?]
  | .around _ cause _ => by
    rw [codes_around, ← code?_eq_head?_codes cause]
    rfl
  | .transient cause => by
    rw [codes_transient, ← code?_eq_head?_codes cause]
    rfl
  | .plain _ | .rateLimit _ | .missing | .unreachable => rfl

/-- An error's code name is the name of the first code of its chain, or empty when it has
none. -/
theorem codeName_eq_head?_codes (e : Error) : e.codeName = (e.codes.head?.map Code.name).getD "" := by
  rw [codeName, code?_eq_head?_codes]

/-- The first code is one of the codes, so a code that `isCode` finds `has` finds too. -/
theorem has_of_isCode {e : Error} {c : Code} (h : e.isCode c = true) : e.has c = true := by
  have first : e.codes.head? = some c := by
    simpa [isCode, code?_eq_head?_codes] using h
  exact (has_iff_mem_codes e c).mpr (List.mem_of_mem_head? first)

/-- `has c` finds `c` exactly when some layer of the chain carries it; a code that the first
coded layer carries is found; and the written code of an error is that of its first coded
layer, or the empty text when none is coded. -/
theorem code_lookups_read_chain (e : Error) (c : Code) :
    (e.has c = true ↔ ∃ l ∈ e.layers, l.ownCode? = some c) ∧
      (e.isCode c = true → e.has c = true) ∧
      e.codeName = ((e.layers.findSome? ownCode?).map Code.name).getD "" := by
  refine ⟨(has_iff_mem_codes e c).trans mem_codes_iff, has_of_isCode, ?_⟩
  rw [codeName_eq_head?_codes, codes, List.head?_filterMap]

end DepLock.Error
