import PCFTyping.Proofs.Session.Check

/-!
What is said when a session complains.

A complaint about pictures always comes to its end, and nothing but the console
and the picks has changed then (`Session.complain_completes`). The first three
picks decide its words, whatever the pictures are (`Outburst.compose_run`); each
picture is listed once and in order (`Session.listIssues_completes`).

Giving up on a root files a picture of it and complains only if there is room
left (`Session.giveUp_ends`).
-/

namespace PCFTyping

namespace Outburst

/-- The item that the pick at a place points at; without such a pick it is the
first. -/
def item (items : List String) (picks : Picks) (place : Nat) : String :=
  items.getD (picks.getD place 0 % items.length).toNat ""

/-- The words that the first three picks decide. -/
def words (picks : Picks) : String :=
  item particles picks 0 ++ item oaths picks 1 ++ "! " ++ item resignations picks 2

/-- An outburst uses up three picks, as far as there are so many. -/
theorem compose_run (picks : Picks) : compose.run picks = (words picks, picks.drop 3) := by
  match picks with
  | [] => rfl
  | [_] => rfl
  | [_, _] => rfl
  | _ :: _ :: _ :: _ => rfl

example : words [2, -1, 6] = "Aw, Woe is me! The judgement is not derivable." := by decide

end Outburst

namespace Session

variable {session : Session} {pictures earlier : List Picture}

theorem saying_saying (session : Session) (s s' : String) :
    (session.saying s).saying s' = session.saying (s ++ s') := by
  rw [saying, saying, saying, String.append_assoc]

theorem writeLine_completes (session : Session) (s : String) :
    Completes (writeLine s) session fun _ after => after = session.saying (s ++ "\n") :=
  rfl

theorem outburst_completes (session : Session) :
    Completes outburst session fun text after => text = Outburst.words session.picks ∧
      after = { session with picks := session.picks.drop 3 } := by
  have hrun : outburst.run session = .ok (Outburst.compose.run session.picks).1
      { session with picks := (Outburst.compose.run session.picks).2 } := rfl
  rw [Completes, Ensures, hrun, Outburst.compose_run]
  exact ⟨rfl, rfl⟩

/-- Pictures on the console, each below a line of dashes. -/
def listing (pictures : List Picture) : String :=
  String.join (pictures.map fun picture =>
    String.join (List.replicate 20 "  -") ++ "\n" ++ picture.text ++ "\n")

/-- A complaint: a line of stars, an outburst and the pictures. -/
def lament (picks : Outburst.Picks) (pictures : List Picture) : String :=
  String.join (List.replicate 60 "*") ++ "\n" ++ Outburst.words picks ++ "\n" ++
    listing pictures

/-- The session once it has complained about pictures. -/
def lamenting (session : Session) (pictures : List Picture) : Session :=
  { session.saying (lament session.picks pictures) with picks := session.picks.drop 3 }

theorem listing_cons (picture : Picture) (rest : List Picture) :
    listing (picture :: rest) =
      String.join (List.replicate 20 "  -") ++ "\n" ++ picture.text ++ "\n" ++ listing rest := by
  rw [listing, List.map_cons, String.join_cons, listing]

/-- Pictures are listed to the last one. -/
theorem listIssues_completes (session : Session) (pictures : List Picture) :
    Completes (listIssues (pictures.map .picture)) session fun _ after =>
      after = session.saying (listing pictures) := by
  induction pictures generalizing session with
  | nil => simp [Ensures, listIssues, listing, saying]
  | cons picture rest ih =>
    apply (writeLine_completes _ _).bind
    rintro _ _ rfl
    have htext : Succeeds (Issue.picture picture).text := ⟨picture.text, rfl⟩
    apply (htext.completes _).bind
    rintro _ _ ⟨⟨⟩, rfl⟩
    apply (writeLine_completes _ _).bind
    rintro _ _ rfl
    apply (ih _).mono
    rintro _ _ rfl
    rw [listing_cons, saying_saying, saying_saying]
    simp only [String.append_assoc]

/-- A complaint about some pictures is a lament over them. -/
theorem complain_completes (hissues : session.report.issues = pictures.map .picture)
    (hsome : pictures ≠ []) :
    Completes complain session fun _ after => after = session.lamenting pictures := by
  have hnonempty : (!session.report.issues.isEmpty) = true := by simpa [hissues] using hsome
  apply (Completes.get session).bind
  rintro now after ⟨rfl, rfl⟩
  rw [if_pos hnonempty, hissues]
  apply (writeLine_completes _ _).bind
  rintro _ _ rfl
  apply (outburst_completes _).bind
  rintro _ _ ⟨rfl, rfl⟩
  apply (writeLine_completes _ _).bind
  rintro _ _ rfl
  apply (listIssues_completes _ pictures).mono
  rintro _ _ rfl
  simp only [lamenting, lament, saying, String.append_assoc]

/-- **Giving up files a picture and ends.** If the picture brings the report to
its limit, nothing is said. Otherwise the session complains about all pictures,
the new one being the last. -/
theorem giveUp_ends {α : Type} {root : Part} {hint : Scalar} {picture : Picture}
    (hdrawn : unfinishedPicture root hint = .ok picture)
    (hearlier : session.report.issues = earlier.map .picture) :
    Ensures (giveUp root hint : Act α) session (fun _ _ => False)
      (fun stop after =>
        ((session.withPicture picture).report.atLimit = true → stop = .tooManyIssues ∧
          after = session.withPicture picture) ∧
        ((session.withPicture picture).report.atLimit = false → stop = .unfinished hint ∧
          after = (session.withPicture picture).lamenting (earlier ++ [picture]))) := by
  have hissues : (session.withPicture picture).report.issues =
      (earlier ++ [picture]).map .picture := by
    rw [List.map_append, ← hearlier]
    rfl
  rw [giveUp, hdrawn]
  apply (file_ensures (.picture picture)).bind
  · rintro stop after ⟨rfl, rfl, hfull⟩
    refine ⟨fun _ => ⟨rfl, rfl⟩, fun hroom => ?_⟩
    cases hfull.symm.trans hroom
  -- The picture counts as filed by now, so the complaint is about it too.
  rintro _ filed ⟨rfl, hroom⟩
  apply (complain_completes hissues (by simp)).bind
  rintro _ after rfl
  refine ⟨fun hfull => ?_, fun _ => ⟨rfl, rfl⟩⟩
  cases hfull.symm.trans hroom

end Session

end PCFTyping
