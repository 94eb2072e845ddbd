import MatcherHost.Proofs.Decoding
import MatcherHost.Proofs.Serving

/-! Locals and the scopes they stand in. Binding values turns them round and loading them one after
the other turns them back, so a scope that loads all it bound and closes has changed nothing. The
locals of an enclosing scope lie beneath those of the scopes inside it: as long as no more locals
are released than were bound meanwhile, they stay as they are. -/
namespace MatcherHost

namespace Session

variable {setup : Setup} {session : Session} {count index : Nat}

/-- A signal that amounts to a call which is served leaves what the call leaves. -/
theorem respond_reaches {reached : Session} {signal : Signal} {call : Call}
    (opened : session.violation = none) (heard : signal.isTraceHook = false)
    (decodes : signal.Decodes session.input.length call)
    (served : session.apply setup.factory call = ⟨reached, none, none⟩) :
    (session.respond setup signal).session = reached := by
  rw [respond_of_heard opened heard (Signal.decode_eq_ok.mpr decodes) (by rw [served]), served]

theorem respond_localsPush (opened : session.violation = none)
    (enough : count ≤ session.output.length) :
    (session.respond setup (.localsPush count)).session =
      { session with
        output := session.output.drop count
        locals := (List.take count session.output).reverse ++ session.locals } := by
  refine respond_reaches opened rfl .localsPush ?_
  simp only [apply, Locals.push, Nat.not_lt.mpr enough, if_false]
  rfl

theorem respond_localsLoad {value : Value} (opened : session.violation = none)
    (found : session.locals[index]? = some value) :
    (session.respond setup (.localsLoad index)).session =
      { session with output := value :: session.output } := by
  refine respond_reaches opened rfl .localsLoad ?_
  simp only [apply, Locals.load, found]
  rfl

theorem respond_localsPop (opened : session.violation = none)
    (enough : count ≤ session.locals.length) :
    (session.respond setup (.localsPop count)).session =
      { session with locals := session.locals.drop count } := by
  refine respond_reaches opened rfl .localsPop ?_
  simp only [apply, Locals.pop, Nat.not_lt.mpr enough, if_false]
  rfl

def loads (count : Nat) : List Signal :=
  (List.range count).map fun index : Nat => .localsLoad index

theorem loads_succ : loads (count + 1) = loads count ++ [.localsLoad count] := by
  simp [loads, List.range_succ]

/-- Loading locals in order leaves them the other way round: the deepest of them is on top. -/
theorem after_loads (opened : session.violation = none)
    (enough : count ≤ session.locals.length) :
    session.after setup (loads count) =
      { session with output := (List.take count session.locals).reverse ++ session.output } := by
  induction count with
  | zero => rfl
  | succ count ih =>
    obtain ⟨value, found⟩ : ∃ value, session.locals[count]? = some value :=
      ⟨_, List.getElem?_eq_getElem enough⟩
    have next : List.take (count + 1) session.locals =
        List.take count session.locals ++ [value] := by
      rw [List.take_add_one, found, Option.toList_some]
    rw [loads_succ, after_append, ih (Nat.le_of_succ_le enough), next, List.reverse_append]
    exact respond_localsLoad opened found

/-- Binding values, loading each of them once from the top down, and releasing them leaves an open
session exactly as it was, and none of these signals is refused. -/
theorem bind_load_release (setup : Setup) (session : Session) (count : Nat)
    (opened : session.violation = none) (enough : count ≤ session.output.length) :
    let signals := .localsPush count :: loads count ++ [.localsPop count]
    session.after setup signals = session ∧
      ∀ early, early <+: signals → (session.after setup early).violation = none := by
  intro signals
  -- Inside the scope the values lie turned round on top of the locals.
  let entered : Session := { session with
    output := session.output.drop count
    locals := (List.take count session.output).reverse ++ session.locals }
  let loaded : Session := { entered with output := session.output }
  have bound : (List.take count session.output).reverse.length = count := by
    rw [List.length_reverse, List.length_take, Nat.min_eq_left enough]
  have within : count ≤ entered.locals.length := by
    rw [List.length_append, bound]
    exact Nat.le_add_right ..
  have enters : (session.respond setup (.localsPush count)).session = entered :=
    respond_localsPush opened enough
  have fetches : entered.after setup (loads count) = loaded := by
    rw [@after_loads setup entered count opened within, List.take_left' bound,
      List.reverse_reverse, List.take_append_drop]
  have leaves : (loaded.respond setup (.localsPop count)).session = session := by
    rw [@respond_localsPop setup loaded count opened within, List.drop_left' bound]
  have restored : session.after setup signals = session := by
    rw [after_append, after_cons setup _ (loads count), enters, fetches]
    exact leaves
  refine ⟨restored, ?_⟩
  rintro early ⟨late, whole⟩
  have clean : (session.after setup signals).violation = none := by rw [restored, opened]
  rw [← whole, after_append] at clean
  exact open_of_after clean

theorem bind_load_release_two :
    let session : Session :=
      { input := [97], output := [.text "top", .empty, .boolean true], locals := [.text "old"] }
    session.violation = none ∧ 2 ≤ session.output.length ∧
    session.after ⟨.identity, true⟩ [.localsPush 2, .localsLoad 0, .localsLoad 1, .localsPop 2] =
      session := by
  intro session
  exact ⟨rfl, by decide, (bind_load_release ⟨.identity, true⟩ session 2 rfl (by decide)).1⟩

/-! What signals can do to the locals: cover them with more, or uncover some. -/

theorem apply_locals (factory : Factory) (session : Session) (call : Call) :
    session.locals <:+ (session.apply factory call).session.locals ∨
      (session.apply factory call).session.locals <:+ session.locals := by
  cases call with
  | localsPush count =>
    left
    simp only [apply, onStacks, Locals.push]
    split
    · exact List.suffix_rfl
    · exact List.suffix_append ..
  | localsLoad index =>
    left
    simp only [apply, onStacks, Locals.load]
    split <;> exact List.suffix_rfl
  | localsPop count =>
    right
    simp only [apply, onStacks, Locals.pop]
    split
    · exact List.suffix_rfl
    · exact List.drop_suffix ..
  | matchAt position =>
    have kept : (session.apply factory (.matchAt position)).session.locals = session.locals := by
      rw [apply, matchAt_session]
    exact .inl (kept ▸ List.suffix_rfl)
  | _ => exact .inl List.suffix_rfl

theorem respond_locals (setup : Setup) (session : Session) (signal : Signal) :
    session.locals <:+ (session.respond setup signal).session.locals ∨
      (session.respond setup signal).session.locals <:+ session.locals := by
  rcases respond_leaves setup session signal with ⟨_, same⟩ | ⟨call, _, _, _, same⟩
  · rw [same]
    exact .inl List.suffix_rfl
  · rw [same]
    exact apply_locals setup.factory session call

/-- Locals at the bottom survive a signal that leaves at least as many. -/
theorem respond_keeps_bottom {bottom : Stack} {signal : Signal}
    (lowest : bottom <:+ session.locals)
    (above : bottom.length ≤ (session.respond setup signal).session.locals.length) :
    bottom <:+ (session.respond setup signal).session.locals := by
  rcases respond_locals setup session signal with covered | uncovered
  · exact lowest.trans covered
  · exact List.suffix_of_suffix_length_le lowest uncovered above

/-- Locals at the bottom survive a run in which there are never fewer. -/
theorem after_keeps_bottom {bottom : Stack} {signals : List Signal}
    (lowest : bottom <:+ session.locals)
    (above : ∀ served ≤ signals.length,
      bottom.length ≤ (session.after setup (signals.take served)).locals.length) :
    bottom <:+ (session.after setup signals).locals := by
  induction signals generalizing session with
  | nil => exact lowest
  | cons signal rest ih =>
    have first := respond_keeps_bottom lowest (above 1 (Nat.le_add_left ..))
    exact ih first fun served within => above (served + 1) (Nat.succ_le_succ within)

/-- In a run without a violation that never has fewer locals than it began with, the locals of the
beginning stay at the bottom. Whatever was bound since lies on top of them, so each is loaded with
an index that is larger by so much, and is the same value; when nothing is left on top, the locals
are exactly those of the beginning. -/
theorem enclosing_scope_kept (setup : Setup) (session : Session) (signals : List Signal)
    (clean : (session.after setup signals).violation = none)
    (above : ∀ served ≤ signals.length,
      session.locals.length ≤ (session.after setup (signals.take served)).locals.length) :
    let final := session.after setup signals
    let deeper := final.locals.length - session.locals.length
    final.locals.drop deeper = session.locals ∧
    (∀ index < session.locals.length, ∃ value,
      (session.respond setup (.localsLoad index)).session =
        { session with output := value :: session.output } ∧
      (final.respond setup (.localsLoad (deeper + index : Nat))).session =
        { final with output := value :: final.output }) ∧
    (final.locals.length = session.locals.length → final.locals = session.locals) := by
  intro final deeper
  have kept : session.locals <:+ final.locals := after_keeps_bottom List.suffix_rfl above
  have bottom : final.locals.drop deeper = session.locals := (List.suffix_iff_eq_drop.mp kept).symm
  refine ⟨bottom, fun index bound => ?_, fun same => (kept.eq_of_length same.symm).symm⟩
  obtain ⟨value, found⟩ : ∃ value, session.locals[index]? = some value :=
    ⟨_, List.getElem?_eq_getElem bound⟩
  have deep : final.locals[deeper + index]? = some value := by
    rw [← List.getElem?_drop, bottom, found]
  exact ⟨value, respond_localsLoad (open_of_after clean) found, respond_localsLoad clean deep⟩

theorem enclosing_scope_kept_nested :
    let setup : Setup := ⟨.identity, true⟩
    let session : Session := { input := [97], output := [.text "a"], locals := [.boolean true] }
    let signals : List Signal := [.localsPush 1, .localsLoad 1, .localsLoad 0,
      .matchAt (some 0), .localsPush 1, .localsPop 2, .traceFailure (some 1) (some [101]) true,
      .pushEmpty, .localsPush 1]
    let final := session.after setup signals
    final.violation = none ∧
    (∀ served ≤ signals.length,
      session.locals.length ≤ (session.after setup (signals.take served)).locals.length) ∧
    final.locals = [.empty, .boolean true] ∧
    ∃ value, (session.respond setup (.localsLoad 0)).session =
        { session with output := value :: session.output } ∧
      (final.respond setup (.localsLoad 1)).session =
        { final with output := value :: final.output } := by
  intro setup session signals final
  have clean : final.violation = none := by decide +kernel
  have above : ∀ served ≤ signals.length,
      session.locals.length ≤ (session.after setup (signals.take served)).locals.length := by
    decide +kernel
  have deeper : final.locals.length - session.locals.length = 1 := by decide +kernel
  obtain ⟨_, loaded, _⟩ := enclosing_scope_kept setup session signals clean above
  rw [deeper] at loaded
  exact ⟨clean, above, by decide +kernel, loaded 0 (by decide)⟩

end Session
end MatcherHost
