import PCFTyping.Scope.Catalog
import PCFTyping.Session.Check
import PCFTyping.Term.Equality
import PCFTyping.Proofs.Outcome
import PCFTyping.Proofs.Ty.Classes
import PCFTyping.Proofs.Typing.Adequacy
import PCFTyping.Proofs.Placing
import PCFTyping.Proofs.Session.Check
import PCFTyping.Proofs.Session.Verdict
import PCFTyping.Proofs.Session.Issues
import PCFTyping.Proofs.Tandem
import PCFTyping.Proofs.Typing.Agreement
import PCFTyping.Proofs.Columns
import PCFTyping.Proofs.Session.Pictures
import PCFTyping.Proofs.Session.Visibility
import PCFTyping.Proofs.Session.Safety
import PCFTyping.Proofs.Session.Finding
import PCFTyping.Proofs.Session.Runs
import PCFTyping.Proofs.Telling
import PCFTyping.Proofs.Lines
import PCFTyping.Proofs.Session.Complaining
import PCFTyping.Proofs.Session.Consistency
import PCFTyping.Proofs.Session.Console
import PCFTyping.Proofs.Likeness
import PCFTyping.Proofs.Session.Hidden
import PCFTyping.Proofs.Session.PicturesAlike
import PCFTyping.Proofs.Occurrences
import PCFTyping.Proofs.Underlines
import PCFTyping.Proofs.Session.LetAsCall
import PCFTyping.Proofs.Obstacles
import PCFTyping.Proofs.Foreign
import PCFTyping.Proofs.Session.NoVerdict
import PCFTyping.Proofs.Session.Sharing
import PCFTyping.Proofs.Assembly
import PCFTyping.Proofs.FirstAppearance
import PCFTyping.Proofs.Scope.Bindings
import PCFTyping.Proofs.Session.TidyScope
import PCFTyping.Proofs.Ty.Grouping
import PCFTyping.Proofs.Session.Mismatch
import PCFTyping.Proofs.Session.GivingUp
