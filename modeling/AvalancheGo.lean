import AvalancheGo.Ids.ID
import AvalancheGo.Ids.Aliaser
import AvalancheGo.Wrappers.Packer
import AvalancheGo.State.Store
import AvalancheGo.State.Refinement
import AvalancheGo.Sampler.Uniform
import AvalancheGo.Ids.UniqueBag
import AvalancheGo.Djtx.UTXOID
import AvalancheGo.Json.ParseUint
import AvalancheGo.Json.Uint
import AvalancheGo.Platformvm.AddDelegatorTx
import AvalancheGo.Utils.Sort
import AvalancheGo.Avm.BuildGenesis
import AvalancheGo.Genesis.FromConfig
import AvalancheGo.Avm.ExportTx
import AvalancheGo.Avm.Tx
import AvalancheGo.Platformvm.DelegatorSemantics
import AvalancheGo.Platformvm.StakeableLock
import AvalancheGo.Cache.LRU
import AvalancheGo.State.LRUStore
