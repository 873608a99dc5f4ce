import StepScript.Proofs.Board.Moves
import StepScript.Proofs.Number.Sign
import StepScript.Proofs.Run.Alike
import StepScript.Proofs.Script.Spelling
set_option autoImplicit false

/-!
# Board: backward moves and left turns, redirected

A backward move is a forward move by the negated distance, and a left turn is a right turn by the
negated angle.  A script can ask for either in the other direction, with a minus sign in front of the
number, and no run shows that it did.

The turtle tells lines apart by their motion: how far they take it along its heading and how far they
turn it.  A line redirected has the same motion, because a minus sign does not change where the number
ends; and scripts of lines with the same motion act alike.

Main statements: `Turtle.respects_sameMotion`, `Line.Redirects.sameMotion` and
`turtleRunsAlike_of_redirected`.
-/

namespace StepScript

open Machine

/-! ## Motion -/

/-- Two lines that ask for the same motion, or for none. -/
structure Line.SameMotion (l l' : Line) : Prop where
  blank : l.isBlank = l'.isBlank
  distance : (TurtleCommand.ofLine l).distance? = (TurtleCommand.ofLine l').distance?
  turn : (TurtleCommand.ofLine l).turn? = (TurtleCommand.ofLine l').turn?

namespace Turtle

/-- What a command does to the turtle is its motion. -/
theorem apply_eq_of_motion {c c' : TurtleCommand} (hdistance : c.distance? = c'.distance?)
    (hturn : c.turn? = c'.turn?) (t : Turtle) : t.apply c = t.apply c' := by
  cases hmove : c.distance? with
  | some d => rw [apply_of_distance? hmove, apply_of_distance? (hdistance.symm.trans hmove)]
  | none =>
      cases hrotate : c.turn? with
      | some degrees =>
          rw [t.movesWhole.turned c degrees hrotate,
            t.movesWhole.turned c' degrees (hturn.symm.trans hrotate)]
      | none =>
          rw [t.movesWhole.idle c hmove hrotate,
            t.movesWhole.idle c' (hdistance.symm.trans hmove) (hturn.symm.trans hrotate)]

/-- **The turtle tells lines apart by their motion**, and scripts not at all before they run. -/
theorem respects_sameMotion : World.Respects Turtle Line.SameMotion where
  refl _ := ⟨rfl, rfl, rfl⟩
  line {l l'} h t := by
    have happly : World.apply t (World.decode l) = World.apply t (World.decode l') := by
      rw [world_apply_decode, world_apply_decode]
      exact apply_eq_of_motion h.distance h.turn t
    rw [Passage.ofLine, h.blank, happly, Passage.ofLine]
  begin _ _ := rfl

end Turtle

/-! ## Lines redirected -/

/-- The name of a command and that of the command for the opposite direction. -/
inductive OppositeName : String → String → Prop where
  | tras : OppositeName "TRAS" "ANDA"
  | trás : OppositeName "TRÁS" "ANDA"
  | esquerda : OppositeName "ESQUERDA" "DIREITA"

/-- A line of text whose first two words are a command, in any letter case, and an unsigned token that
starts with a number; and another with the opposite command and a minus sign in front of that token.
Whatever else the lines hold is left out of account. -/
inductive Line.Redirects (raw raw' : List Char) : Prop where
  | mk {name name' : String} {word word' operand : List Char} {rest rest' : List (List Char)}
      (opposite : OppositeName name name')
      (words_eq : words raw = word :: operand :: rest)
      (words_eq' : words raw' = word' :: ('-' :: operand) :: rest')
      (name_eq : upperCase word = name.toList) (name_eq' : upperCase word' = name'.toList)
      (unsigned : (splitSign (upperCase operand)).1 = [])
      (number : (floatPrefix? (upperCase operand)).isSome = true)

/-- The command of a line with two tokens or more. -/
theorem TurtleCommand.ofLine_of_tokens {l : Line} {name operand : String} {rest : List String}
    {x : Float} (htokens : l.tokens = name :: operand :: rest)
    (hnumber : floatPrefix? operand.toList = some x) :
    ofLine l =
      if name = "ANDA" then .forward x
      else if name = "TRAS" || name = "TRÁS" then .back x
      else if name = "DIREITA" then .right x
      else if name = "ESQUERDA" then .left x
      else .noop := by
  have hvalue : l.number 1 = x := by
    simp [Line.number, Line.float?, Line.operand?, htokens, hnumber]
  have hname : l.command? = some name := by
    rw [Line.command?, htokens, List.head?_cons]
  simp only [ofLine, hname, hvalue]

/-- Opposite commands, the one by `x` and the other by `-x`, ask for the same motion. -/
theorem OppositeName.sameMotion {name name' : String} (h : OppositeName name name') {l l' : Line}
    {operand operand' : String} {rest rest' : List String} {x : Float}
    (htokens : l.tokens = name :: operand :: rest)
    (htokens' : l'.tokens = name' :: operand' :: rest')
    (hnumber : floatPrefix? operand.toList = some x)
    (hnumber' : floatPrefix? operand'.toList = some (-x)) : l.SameMotion l' := by
  have hblank : l.isBlank = l'.isBlank := by simp [Line.isBlank, htokens, htokens']
  have hcommand := TurtleCommand.ofLine_of_tokens htokens hnumber
  have hcommand' := TurtleCommand.ofLine_of_tokens htokens' hnumber'
  refine ⟨hblank, ?_, ?_⟩
  · rw [hcommand, hcommand']
    cases h <;> rfl
  · rw [hcommand, hcommand']
    cases h <;> rfl

/-- **A line redirected asks for the same motion.** -/
theorem Line.Redirects.sameMotion {raw raw' : List Char} (h : Redirects raw raw') :
    (ofText raw).SameMotion (ofText raw') := by
  obtain ⟨hopposite, hwords, hwords', hname, hname', hunsigned, hsome⟩ := h
  obtain ⟨x, hnumber⟩ := Option.isSome_iff_exists.mp hsome
  have htokens := tokens_ofText_eq_map_words raw
  have htokens' := tokens_ofText_eq_map_words raw'
  rw [hwords, List.map_cons, List.map_cons, hname, String.ofList_toList] at htokens
  rw [hwords', List.map_cons, List.map_cons, hname', String.ofList_toList] at htokens'
  refine hopposite.sameMotion htokens htokens' (x := x) ?_ ?_
  · rw [String.toList_ofList, hnumber]
  · have hminus := floatPrefix?_minus hunsigned
    rw [hnumber] at hminus
    rw [String.toList_ofList]
    exact hminus

/-! ## Texts redirected -/

/-- The same text with any number of its lines redirected. -/
def Redirected (a b : String) : Prop :=
  List.Forall₂ (fun raw raw' => raw = raw' ∨ Line.Redirects raw raw') (splitLines a.toList)
    (splitLines b.toList)

theorem Redirected.alike {a b : String} (h : Redirected a b) :
    (Script.parse a).Alike Line.SameMotion (Script.parse b) := by
  refine List.forall₂_map_left_iff.mpr (List.forall₂_map_right_iff.mpr (h.imp ?_))
  rintro raw raw' (rfl | hredirects)
  · exact Turtle.respects_sameMotion.refl _
  · exact hredirects.sameMotion

/-! ## Runs -/

/-- The same simulator, the script of its session forgotten. -/
def Simulator.scriptless {W : Type} (s : Simulator W) : Simulator W :=
  { s with session := s.session.map fun session => { session with script := ⟨[]⟩ } }

/-- The same game, the script of its session forgotten. -/
def Game.scriptless (g : Game) : Game := g.withSimulator g.simulator.scriptless

theorem Simulator.Alike.scriptless_eq {W : Type} {ρ : Line → Line → Prop} {s s' : Simulator W}
    (h : s.Alike ρ s') : s.scriptless = s'.scriptless := by
  cases h with
  | free w p n => rfl
  | held h w p n =>
      cases h with
      | mk h => rfl

theorem Game.Alike.scriptless_eq {ρ : Line → Line → Prop} {g g' : Game} (h : g.Alike ρ g') :
    g.scriptless = g'.scriptless := by
  cases h with
  | mk h seed generator =>
      exact congrArg (fun s => (⟨s, seed, generator⟩ : Game)) h.scriptless_eq

/-- Texts that no turtle simulator and no game tells apart.  Asked to run the one or the other in any
state, it gives the same replies to that and to all later requests, with the same steps, pauses and
outcomes, shows the same events and goes through the same states, but for the script held; and a run
to the end comes out the same for every view. -/
structure TurtleRunsAlike (a b : String) : Prop where
  simulator : ∀ (s : Simulator Turtle) (rs : List Request),
    responses Simulator.scriptless s (.run a :: rs) =
      responses Simulator.scriptless s (.run b :: rs)
  game : ∀ (g : Game) (rs : List GameRequest),
    responses Game.scriptless g (.plain (.run a) :: rs) =
      responses Game.scriptless g (.plain (.run b) :: rs)
  simulatorToEnd : ∀ {V : Type} [View V Turtle] (s : Simulator Turtle) (v : V) (clock : Clock),
    s.runBlocking a v clock = s.runBlocking b v clock
  gameToEnd : ∀ {V : Type} [View V Turtle] (g : Game) (v : V) (clock : Clock),
    g.runBlocking a v clock = g.runBlocking b v clock

/-- **Opposite commands are sign flips of each other**: whatever lines of a text are redirected, no
run shows it. -/
theorem turtleRunsAlike_of_redirected {a b : String} (h : Redirected a b) : TurtleRunsAlike a b where
  simulator s rs :=
    s.responses_of_alike Turtle.respects_sameMotion (fun _ _ hs => hs.scriptless_eq)
      (.cons (.run h.alike) (Request.alike_refl _ rs))
  game g rs :=
    g.responses_of_alike Turtle.respects_sameMotion (fun _ _ hg => hg.scriptless_eq)
      (.cons (.plain (.run h.alike)) (GameRequest.alike_refl _ rs))
  simulatorToEnd s := s.runBlocking_of_alike Turtle.respects_sameMotion h.alike
  gameToEnd g := g.runBlocking_of_alike Turtle.respects_sameMotion h.alike

/-- Two lines of three redirected, the one with a fraction only, an exponent without digits and
another token. -/
theorem turtleRunsAlike_of_detour :
    let a := "anda 1\ntrás .5e0x y\nEsquerda 90"
    let b := "anda 1\nANDA -.5e0x y\nDIREITA -90"
    Redirected a b ∧ TurtleRunsAlike a b := by
  intro a b
  have hredirected : Redirected a b := by
    have hlines : splitLines a.toList =
        ["anda 1".toList, "trás .5e0x y".toList, "Esquerda 90".toList] := by decide +kernel
    have hlines' : splitLines b.toList =
        ["anda 1".toList, "ANDA -.5e0x y".toList, "DIREITA -90".toList] := by decide +kernel
    rw [Redirected, hlines, hlines']
    refine .cons (.inl rfl) (.cons (.inr ?_) (.cons (.inr ?_) .nil))
    · have hwords : words "trás .5e0x y".toList =
          ["trás".toList, ".5e0x".toList, "y".toList] := by decide +kernel
      have hwords' : words "ANDA -.5e0x y".toList =
          ["ANDA".toList, '-' :: ".5e0x".toList, "y".toList] := by decide +kernel
      exact .mk .trás hwords hwords' (by decide +kernel) (by decide +kernel) (by decide +kernel)
        (by decide +kernel)
    · have hwords : words "Esquerda 90".toList = ["Esquerda".toList, "90".toList] := by
        decide +kernel
      have hwords' : words "DIREITA -90".toList = ["DIREITA".toList, '-' :: "90".toList] := by
        decide +kernel
      exact .mk .esquerda hwords hwords' (by decide +kernel) (by decide +kernel)
        (by decide +kernel) (by decide +kernel)
  exact ⟨hredirected, turtleRunsAlike_of_redirected hredirected⟩

end StepScript
