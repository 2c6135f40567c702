import QueryInk.Main
import QueryInk.Proofs.Decimal.Rounding
import QueryInk.Proofs.Document.Agreement
import QueryInk.Proofs.Document.Independence
import QueryInk.Proofs.Document.Pointing
import QueryInk.Proofs.Document.Traversal
import QueryInk.Proofs.Highlight.Erasure
import QueryInk.Proofs.Highlight.Plain
import QueryInk.Proofs.Run.Calls
import QueryInk.Proofs.Run.Isolation
import QueryInk.Proofs.Run.Listing
import QueryInk.Proofs.Run.Precedence
import QueryInk.Proofs.Run.Schedule
import QueryInk.Proofs.Settings.Fields
import QueryInk.Proofs.Text.Halves
import QueryInk.Proofs.Token.Context
import QueryInk.Proofs.Token.Forward
import QueryInk.Proofs.Token.Grammar
import QueryInk.Proofs.Token.LiteralLength
import QueryInk.Proofs.Token.Lookahead
import QueryInk.Proofs.Token.Maximal
import QueryInk.Proofs.Token.Moves
import QueryInk.Proofs.Token.Quotation
import QueryInk.Proofs.Token.Resume
import QueryInk.Proofs.Token.Separation
import QueryInk.Proofs.Token.Tiling
import QueryInk.Token.Scanner
