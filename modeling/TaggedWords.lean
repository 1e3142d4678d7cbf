import TaggedWords.Main
import TaggedWords.Native
import TaggedWords.Proofs.Spelling
import TaggedWords.Proofs.Shape
import TaggedWords.Proofs.Division
import TaggedWords.Proofs.Canonical
import TaggedWords.Proofs.Fixnum
import TaggedWords.Proofs.Comparison
import TaggedWords.Proofs.Inspector.RoundTrip
import TaggedWords.Proofs.Delivery
import TaggedWords.Proofs.Grammar.Word
import TaggedWords.Proofs.Run
import TaggedWords.Proofs.Inspector.Console
import TaggedWords.Proofs.Inspector.Session
import TaggedWords.Proofs.Printing
import TaggedWords.Proofs.Agreement
import TaggedWords.Proofs.Inspector.Dialogue
import TaggedWords.Proofs.Inspector.Accounting
import TaggedWords.Proofs.Stream
import TaggedWords.Proofs.Inspector.History
import TaggedWords.Proofs.Inspector.Sessions
import TaggedWords.Proofs.Inspector.Process
import TaggedWords.Proofs.Grammar.Literal
import TaggedWords.Proofs.Padding
import TaggedWords.Proofs.Inspector.Padding
import TaggedWords.Proofs.Inspector.Argument
import TaggedWords.Proofs.Grammar.Written
