import LatentDeck.Ring.Generations
import LatentDeck.Ring.Header
import LatentDeck.Archive.Offsets
import LatentDeck.Archive.Scan
import LatentDeck.Control.Codec
import LatentDeck.Control.Session
import LatentDeck.Playback.History
import LatentDeck.CodecHost.ReceiptUse
import LatentDeck.CodecHost.Recordings
import LatentDeck.Packages.Enabled
import LatentDeck.Output.Interleaving
import LatentDeck.Archive.Webp
import LatentDeck.Control.Framing
import LatentDeck.Host.DefaultDraft
import LatentDeck.Host.PlayerSession
import LatentDeck.Host.LoopWraps
import LatentDeck.Packages.Selection
import LatentDeck.Packages.Closure
import LatentDeck.Packages.Extraction
import LatentDeck.Packages.ZipMetadata
import LatentDeck.Player.Coordinator
import LatentDeck.Collections.Reindex
import LatentDeck.Viewport.Order
import LatentDeck.Recording.Promises
import LatentDeck.Playback.Presentation
import LatentDeck.DeckUi.ControlLane
import LatentDeck.CodecH3.Adapter
import LatentDeck.Packages.CacheRuns
import LatentDeck.CodecH3.PlaybackWorker
import LatentDeck.CodecHost.Lifetime
import LatentDeck.Host.Broker
