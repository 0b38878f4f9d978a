import Hypermedia.FileTree
import Hypermedia.Main
import Hypermedia.Proofs.ErrorPlace
import Hypermedia.Proofs.Swap.RoundTrip
import Hypermedia.Proofs.Trigger.Composition
import Hypermedia.Proofs.Trigger.RoundTrip
import Hypermedia.Proofs.Sync.Language
import Hypermedia.Proofs.Reader.Coherence
import Hypermedia.Proofs.Swap.Values
import Hypermedia.Proofs.Defaults
import Hypermedia.Proofs.CommandLine.Check
import Hypermedia.Proofs.Manifest.Json
import Hypermedia.Proofs.Duration
import Hypermedia.Proofs.Swap.FirstToken
import Hypermedia.Proofs.Swap.Ignored
import Hypermedia.Proofs.Caret
import Hypermedia.Proofs.Position.Checkpoint
import Hypermedia.Proofs.Trigger.Log
import Hypermedia.Proofs.ErrorKind
import Hypermedia.Proofs.Progress
import Hypermedia.Proofs.CommandLine.ClauseLines
import Hypermedia.Proofs.Manifest.Entries
