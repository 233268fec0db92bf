import SurferCxxrtl.Framework.Names
import SurferCxxrtl.Framework.Protocol
import SurferCxxrtl.Framework.CachedData
import SurferCxxrtl.Container.Data
import SurferCxxrtl.Container.Facade
import SurferCxxrtl.Container.System
import SurferCxxrtl.Properties.Cells
import SurferCxxrtl.Properties.LoadedSignals
import SurferCxxrtl.Properties.ItemNames
import SurferCxxrtl.Properties.ScopeTree
import SurferCxxrtl.Properties.References
import SurferCxxrtl.Properties.SimulationTime
import SurferCxxrtl.Properties.Outstanding
import SurferCxxrtl.Wasm.Api
import SurferCxxrtl.Properties.WasmMessages
import SurferCxxrtl.AsmGheith.Decode
